import TableClasses.Diff.Compare

/-!
# Compact scripts

Of several shortest scripts one reads best: changes that can stand together do. Each deletion, and
then each insertion, is moved up as far as it goes and then down as far as it goes. It passes a
change of the other kind and joins one of its own kind; an insertion also passes kept items that are
equal to its own at the near end. `fuel` bounds the number of moves.
-/

namespace TableClasses.Diff

variable {α : Type} [DecidableEq α]

/-- The kind of change that is being moved. -/
inductive Change where
  | deletion
  | insertion
  deriving DecidableEq, Repr

namespace Change

/-- The run of this kind with these items. -/
def edit : Change → List α → Edit α
  | deletion, l => .delete l
  | insertion, l => .insert l

/-- The items of a run if it is of this kind. -/
def items? : Change → Edit α → Option (List α)
  | deletion, .delete l => some l
  | insertion, .insert l => some l
  | _, _ => none

end Change

/-- A script opened at one change: what stands before it, nearest run first, the items of the
change, and what stands after it. -/
structure Opened (α : Type) where
  before : Script α
  items : List α
  after : Script α

/-- Adds kept items in front of a script. -/
def keepBefore (l : List α) : Script α → Script α
  | .keep m :: rest => .keep (l ++ m) :: rest
  | s => .keep l :: s

/-- Adds kept items behind a script that is given nearest run first. -/
def keepAfter (l : List α) : Script α → Script α
  | .keep m :: rest => .keep (m ++ l) :: rest
  | s => .keep l :: s

/-- A kept run, or nothing if it is empty, in front of a script. -/
def consKeep (l : List α) (s : Script α) : Script α := if l.isEmpty then s else .keep l :: s

/-- Moves the change up as far as it goes. -/
def moveUp (c : Change) : Nat → Opened α → Opened α
  | 0, o => o
  | fuel + 1, o =>
    match o.before with
    | [] => o
    | .keep kept :: rest =>
      let passed := if c = .insertion then commonSuffix kept o.items else []
      if passed.isEmpty then
        if kept.isEmpty then moveUp c fuel { o with before := rest } else o
      else
        moveUp c fuel
          { before := consKeep (kept.take (kept.length - passed.length)) rest
            items := passed ++ o.items.take (o.items.length - passed.length)
            after := keepBefore passed o.after }
    | e :: rest =>
      match c.items? e with
      | some l => moveUp c fuel { o with before := rest, items := l ++ o.items }
      | none => moveUp c fuel { o with before := rest, after := e :: o.after }

/-- Moves the change down as far as it goes. -/
def moveDown (c : Change) : Nat → Opened α → Opened α
  | 0, o => o
  | fuel + 1, o =>
    match o.after with
    | [] => o
    | .keep kept :: rest =>
      let passed := if c = .insertion then commonPrefix kept o.items else []
      if passed.isEmpty then
        if kept.isEmpty then moveDown c fuel { o with after := rest } else o
      else
        moveDown c fuel
          { before := keepAfter passed o.before
            items := o.items.drop passed.length ++ passed
            after := consKeep (kept.drop passed.length) rest }
    | e :: rest =>
      match c.items? e with
      | some l => moveDown c fuel { o with after := rest, items := o.items ++ l }
      | none => moveDown c fuel { o with before := e :: o.before, after := rest }

/-- Moves every change of one kind, first to last. `before` is what has been dealt with, nearest run
first. -/
def settle (c : Change) (moves : Nat) : Nat → Script α → Script α → Script α
  | 0, before, after => before.reverse ++ after
  | _ + 1, before, [] => before.reverse
  | fuel + 1, before, e :: after =>
    match c.items? e with
    | some l =>
      let o := moveDown c moves (moveUp c moves ⟨before, l, after⟩)
      settle c moves fuel (c.edit o.items :: o.before) o.after
    | none => settle c moves fuel (e :: before) after

/-- The number of runs and items of a script. -/
def weight (s : Script α) : Nat := s.foldr (fun e n => e.items.length + 1 + n) 0

/-- Moves all deletions, then all insertions. -/
def compact (s : Script α) : Script α :=
  let moves := 2 * weight s + 1
  settle .insertion moves moves [] (settle .deletion moves moves [] s)

/-- Gathers the changes between two kept runs, with the deletions first. -/
def gather (deleted inserted : List α) : Script α → Script α
  | [] => replacing deleted inserted
  | .keep l :: rest => replacing deleted inserted ++ .keep l :: gather [] [] rest
  | .delete l :: rest => gather (deleted ++ l) inserted rest
  | .insert l :: rest => gather deleted (inserted ++ l) rest

end TableClasses.Diff
