import TableClasses.Diff.Script

/-!
# Where to split a comparison

A shortest script is a shortest path through a grid whose diagonal steps keep equal items. Paths
are grown from both ends at once, a round adding one deletion or insertion to each; on every
diagonal only the furthest point is remembered. `middleSnake?` gives the point at which a path from
the front first meets one from the back, which splits the comparison into two smaller ones.
-/

namespace TableClasses.Diff

variable {α : Type} [DecidableEq α]

/-- The furthest points by diagonal; the diagonal `k` is stored at `k + offset`. -/
structure Frontier where
  offset : Nat
  points : Array Nat

namespace Frontier

def empty (offset : Nat) : Frontier := ⟨offset, Array.replicate (2 * offset + 1) 0⟩

def get (f : Frontier) (k : Int) : Nat := f.points[(k + f.offset).toNat]?.getD 0

def set (f : Frontier) (k : Int) (x : Nat) : Frontier :=
  { f with points := f.points.setIfInBounds (k + f.offset).toNat x }

/-- Where the diagonal `k` is entered in round `d`: from the neighbour that is further along. -/
def enter (f : Frontier) (d k : Int) : Nat :=
  if k = -d ∨ (k ≠ d ∧ f.get (k - 1) < f.get (k + 1)) then f.get (k + 1) else f.get (k - 1) + 1

end Frontier

/-- The number of equal items from the given positions on, at most `fuel`. -/
def equalRun (old new : Array α) : Nat → Nat → Nat → Nat
  | 0, _, _ => 0
  | fuel + 1, i, j =>
    match old[i]?, new[j]? with
    | some a, some b => if a = b then equalRun old new fuel (i + 1) (j + 1) + 1 else 0
    | _, _ => 0

/-- The diagonals of round `d`, from `d` down to `-d`. -/
def diagonals (d : Nat) : List Int := (List.range (d + 1)).map fun (i : Nat) => (d : Int) - 2 * i

/-- Two lists to compare, both also reversed, so that paths from the back are found like paths from
the front. -/
structure Grid (α : Type) where
  old : Array α
  new : Array α
  oldReversed : Array α
  newReversed : Array α

namespace Grid

def width (g : Grid α) : Nat := g.old.size

def height (g : Grid α) : Nat := g.new.size

def delta (g : Grid α) : Int := (g.width : Int) - g.height

def isOdd (g : Grid α) : Bool := g.delta % 2 != 0

/-- Grows the paths from the front on the given diagonals. Either they meet a path from the back,
at a point, or the new frontier results. -/
def forward (g : Grid α) (d : Int) (back : Frontier) : List Int → Frontier →
    (Nat × Nat) ⊕ Frontier
  | [], f => .inr f
  | k :: ks, f =>
    let x := f.enter d k
    let y := ((x : Int) - k).toNat
    let run := equalRun g.old g.new g.width x y
    let f := f.set k (x + run)
    if g.isOdd && decide ((k - g.delta).natAbs ≤ d - 1)
        && decide (g.width ≤ x + run + back.get (-(k - g.delta))) then
      .inl (x, y)
    else forward g d back ks f

/-- Grows the paths from the back on the given diagonals. -/
def backward (g : Grid α) (d : Int) (front : Frontier) : List Int → Frontier →
    (Nat × Nat) ⊕ Frontier
  | [], f => .inr f
  | k :: ks, f =>
    let x := f.enter d k
    let y := ((x : Int) - k).toNat
    let run := equalRun g.oldReversed g.newReversed g.width x y
    let f := f.set k (x + run)
    if !g.isOdd && decide ((k - g.delta).natAbs ≤ d)
        && decide (g.width ≤ x + run + front.get (-(k - g.delta))) then
      .inl (g.width - (x + run), g.height - (y + run))
    else backward g d front ks f

/-- Rounds from `d` on, at most `fuel` of them. -/
def rounds (g : Grid α) : Nat → Nat → Frontier → Frontier → Option (Nat × Nat)
  | 0, _, _, _ => none
  | fuel + 1, d, front, back =>
    match g.forward d back (diagonals d) front with
    | .inl point => some point
    | .inr front =>
      match g.backward d front (diagonals d) back with
      | .inl point => some point
      | .inr back => rounds g fuel (d + 1) front back

end Grid

/-- The point at which two shortest paths meet. -/
def middleSnake? (old new : List α) : Option (Nat × Nat) :=
  let g : Grid α := ⟨old.toArray, new.toArray, old.reverse.toArray, new.reverse.toArray⟩
  let limit := (g.width + g.height + 1) / 2 + 1
  let start := Frontier.empty (limit + 1)
  g.rounds limit 0 start start

end TableClasses.Diff
