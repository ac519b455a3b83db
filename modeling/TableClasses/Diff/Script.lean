/-!
# Edit scripts

A script turns an old list into a new one by keeping, deleting and inserting runs of items.
`oldSide` is what the script starts from and `newSide` what it ends with.
-/

namespace TableClasses.Diff

/-- One run of a script. -/
inductive Edit (α : Type) where
  | keep (items : List α)
  | delete (items : List α)
  | insert (items : List α)
  deriving Repr

abbrev Script (α : Type) := List (Edit α)

variable {α : Type}

namespace Edit

def items : Edit α → List α
  | keep l => l
  | delete l => l
  | insert l => l

def old : Edit α → List α
  | keep l => l
  | delete l => l
  | insert _ => []

def new : Edit α → List α
  | keep l => l
  | delete _ => []
  | insert l => l

end Edit

namespace Script

/-- The items that the script keeps or deletes. -/
def oldSide (s : Script α) : List α := s.flatMap Edit.old

/-- The items that the script keeps or inserts. -/
def newSide (s : Script α) : List α := s.flatMap Edit.new

@[simp] theorem oldSide_nil : oldSide ([] : Script α) = [] := rfl

@[simp] theorem newSide_nil : newSide ([] : Script α) = [] := rfl

@[simp] theorem oldSide_cons (e : Edit α) (s : Script α) :
    oldSide (e :: s) = e.old ++ oldSide s := by
  simp [oldSide]

@[simp] theorem newSide_cons (e : Edit α) (s : Script α) :
    newSide (e :: s) = e.new ++ newSide s := by
  simp [newSide]

@[simp] theorem oldSide_append (s t : Script α) : oldSide (s ++ t) = oldSide s ++ oldSide t := by
  simp [oldSide]

@[simp] theorem newSide_append (s t : Script α) : newSide (s ++ t) = newSide s ++ newSide t := by
  simp [newSide]

end Script

/-! ## Common ends -/

variable [DecidableEq α]

/-- The longest common beginning of two lists. -/
def commonPrefix : List α → List α → List α
  | a :: as, b :: bs => if a = b then a :: commonPrefix as bs else []
  | _, _ => []

/-- The longest common end of two lists. -/
def commonSuffix (as bs : List α) : List α := (commonPrefix as.reverse bs.reverse).reverse

theorem commonPrefix_append_drop_left (as bs : List α) :
    commonPrefix as bs ++ as.drop (commonPrefix as bs).length = as := by
  induction as generalizing bs with
  | nil => cases bs <;> rfl
  | cons a as ih =>
    cases bs with
    | nil => rfl
    | cons b bs =>
      by_cases h : a = b
      · simp [commonPrefix, h, ih]
      · simp [commonPrefix, h]

theorem commonPrefix_append_drop_right (as bs : List α) :
    commonPrefix as bs ++ bs.drop (commonPrefix as bs).length = bs := by
  induction as generalizing bs with
  | nil => cases bs <;> rfl
  | cons a as ih =>
    cases bs with
    | nil => rfl
    | cons b bs =>
      by_cases h : a = b
      · subst h; simp [commonPrefix, ih]
      · simp [commonPrefix, h]

end TableClasses.Diff
