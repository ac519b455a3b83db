import TableClasses.Diff.MiddleSnake

/-!
# Comparing two lists

`compare old new` is a shortest script. What both lists begin and end with is kept; what lies
between is split at the middle of a shortest path and the halves are compared alike. `fuel` bounds
the depth of the halving, and any remainder would be deleted and inserted whole.
-/

namespace TableClasses.Diff

variable {α : Type} [DecidableEq α]

/-- A script of one run, or of none if there are no items. -/
def keeping (items : List α) : Script α := if items.isEmpty then [] else [.keep items]

/-- Deletes all of the old items and inserts all of the new ones. -/
def replacing (old new : List α) : Script α :=
  (if old.isEmpty then [] else [.delete old]) ++ (if new.isEmpty then [] else [.insert new])

def compareWithin : Nat → List α → List α → Script α
  | 0, old, new => replacing old new
  | fuel + 1, old, new =>
    let front := commonPrefix old new
    let old := old.drop front.length
    let new := new.drop front.length
    let back := commonSuffix old new
    let old := old.take (old.length - back.length)
    let new := new.take (new.length - back.length)
    let middle :=
      if old.isEmpty || new.isEmpty then replacing old new
      else
        match middleSnake? old new with
        | some (x, y) =>
          compareWithin fuel (old.take x) (new.take y) ++
            compareWithin fuel (old.drop x) (new.drop y)
        | none => replacing old new
    keeping front ++ middle ++ keeping back

/-- A shortest script from `old` to `new`. -/
def compare (old new : List α) : Script α := compareWithin (old.length + new.length + 1) old new

end TableClasses.Diff
