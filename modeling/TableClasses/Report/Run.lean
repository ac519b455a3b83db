import TableClasses.Report.Error
import TableClasses.Report.Warning

/-!
# Runs

A run works on files, reports warnings as it goes, and may end with an error. The warnings reported
before an error are kept. `Reporting m` is work in `m` that reports warnings; `Run m` may also fail.
-/

namespace TableClasses

/-- Work in `m` with the warnings reported on the way, first to last. -/
def Reporting (m : Type → Type) (α : Type) : Type := m (Warned α)

namespace Reporting

variable {m : Type → Type} [Monad m] {α β : Type}

def mk (x : m (Warned α)) : Reporting m α := x

def run (x : Reporting m α) : m (Warned α) := x

instance : Monad (Reporting m) where
  pure a := mk (pure (pure a))
  bind x f := mk do
    let a ← x.run
    let b ← (f a.value).run
    return ⟨b.value, a.warnings ++ b.warnings⟩

instance : MonadLift Warned (Reporting m) where
  monadLift w := mk (pure w)

instance : MonadLift m (Reporting m) where
  monadLift x := mk do return ⟨← x, []⟩

end Reporting

/-- Work that reports warnings and may end with an error. -/
abbrev Run (m : Type → Type) := ExceptT Error (Reporting m)

namespace Run

variable {m : Type → Type} [Monad m] {α : Type}

/-- A step without an error of its own. -/
def step (x : Reporting m α) : Run m α := ExceptT.lift x

def report (w : Warned α) : Run m α := step (Reporting.mk (pure w))

def act (x : m α) : Run m α := step (Reporting.mk do return ⟨← x, []⟩)

/-- The value of a result, or the error that its fault is. -/
def orFail {ε : Type} (error : ε → Error) : Except ε α → Run m α
  | .ok a => pure a
  | .error fault => throw (error fault)

end Run

end TableClasses
