import TableClasses.Files.Fault
import TableClasses.Text.Utf8

/-!
# Access to files

The four things that a run does with files, by path. Everything that reads or writes is stated over
this interface, so it runs on the disk of the machine as well as on a tree of files in memory.
-/

namespace TableClasses.Files

class Access (m : Type → Type) where
  /-- Whether there is a file or a directory. -/
  present : String → m Bool
  isFile : String → m Bool
  read : String → m (Except Fault ByteArray)
  /-- Writes a file, with the directories above it where they are missing. -/
  write : String → String → m (Except Fault Unit)

/-- The content of a file that is a text. -/
def readText {m : Type → Type} [Monad m] [Access m] (path : String) : m (Except Fault String) := do
  match ← Access.read path with
  | .error fault => return .error fault
  | .ok bytes =>
    match Text.decode? bytes with
    | some text => return .ok text
    | none => return .error .notText

end TableClasses.Files
