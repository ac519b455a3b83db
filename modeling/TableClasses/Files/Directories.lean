import TableClasses.Files.Fault
import TableClasses.Text.Split

/-!
# Making directories

A file is written into a directory, which is made first if it is missing, together with the missing
directories above it. The innermost is tried first; only when there is nowhere to put it are those
above it made, the outermost first. Directories that could be made remain when a later one cannot.
-/

namespace TableClasses.Files

/-- What making directories needs: making one in a directory that is there, and telling whether
there is one. -/
structure DirectoryMaker (m : Type → Type) where
  make : String → m (Except Fault Unit)
  isDirectory : String → m Bool

namespace DirectoryMaker

variable {m : Type → Type} [Monad m] (d : DirectoryMaker m)

/-- Makes a directory unless it is there. -/
def ensure (path : String) : m (Except Fault Unit) := do
  match ← d.make path with
  | .error .alreadyExists =>
    return if ← d.isDirectory path then .ok () else .error .alreadyExists
  | result => return result

/-- Makes a directory and the missing ones above it. Its names are given last name first; an empty
name at the end is the root. -/
def makeAll : List String → m (Except Fault Unit)
  | [] => return .ok ()
  | [""] => return .ok ()
  | name :: up => do
    let path := "/".intercalate (name :: up).reverse
    match ← d.ensure path with
    | .error .notFound =>
      match ← makeAll up with
      | .ok () => d.ensure path
      | failed => return failed
    | result => return result

end DirectoryMaker

/-- The names of a path that lead somewhere, last name first. An empty name or a dot counts only at
the front. -/
def stepsOf (path : String) : List String :=
  let isStep (n : String) : Bool := n != "" && n != "."
  match Text.splitAt '/' path with
  | [] => []
  | [""] => []
  | first :: rest =>
    let rest := (rest.filter isStep).reverse
    if isStep first || first == "." || path.startsWith "/" then rest ++ [first] else rest

/-- The names of the directory of a path. -/
def directorySteps (path : String) : List String := (stepsOf path).drop 1

end TableClasses.Files
