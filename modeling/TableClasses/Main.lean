import TableClasses.CommandLine.Execute
import TableClasses.Files.Directories

/-!
# The program

Runs the command of the command line on the disk. What the command prints goes to the standard
output, warnings and errors to the standard error.
-/

open TableClasses TableClasses.Files

namespace TableClasses.Program

/-! ## The disk -/

/-- The fault that an error of the system is. -/
def faultOf : IO.Error → Fault
  | .noFileOrDirectory .. => .notFound
  | .alreadyExists .. => .alreadyExists
  | .inappropriateType _ 20 _ => .notADirectory
  | .inappropriateType _ 21 _ => .isADirectory
  | e => .other e.toString

def attempt {α : Type} (act : IO α) : IO (Except Fault α) := do
  try return .ok (← act)
  catch e => return .error (faultOf e)

def directoryMaker : DirectoryMaker IO where
  make path := attempt (IO.FS.createDir path)
  isDirectory path := do
    match ← attempt (IO.FS.readBinFile path) with
    | .error .isADirectory => return true
    | _ => return false

instance : Access IO where
  present path := return (← attempt (IO.FS.Handle.mk path .read)).isOk
  isFile path := return (← attempt (IO.FS.readBinFile path)).isOk
  read path := attempt (IO.FS.readBinFile path)
  write path content := do
    match ← directoryMaker.makeAll (directorySteps path) with
    | .ok () => attempt (IO.FS.writeFile path content)
    | failed => return failed

/-! ## The environment -/

/-- Where the system lists the variables of a running program. -/
def variablesFile : String := "/proc/self/environ"

/-- The name and the value of a variable. -/
def variableOf? (entry : List Char) : Option (String × String) :=
  match entry.dropWhile (· != '=') with
  | [] => none
  | _ :: value => some (String.ofList (entry.takeWhile (· != '=')), String.ofList value)

/-- The variables of the environment; none where the system does not list them. -/
def environment : IO (List (String × String)) := do
  match ← attempt (IO.FS.readBinFile variablesFile) with
  | .error _ => return []
  | .ok bytes =>
    let entries := Text.pieces (· == Char.ofNat 0) (Text.decodeLossy bytes.toList)
    return entries.filterMap variableOf?

end TableClasses.Program

def main (arguments : List String) : IO UInt32 := do
  let r ← (CommandLine.execute arguments (← TableClasses.Program.environment) :
    Reporting IO CommandLine.Ending).run
  IO.print r.value.output
  r.warnings.forM fun w => IO.eprintln ("WARN " ++ w.message)
  match r.value with
  | .done _ => pure ()
  | .failed e => IO.eprintln ("Error: " ++ e.message)
  | .refused => IO.eprintln ("error: unexpected arguments\n\n" ++ CommandLine.helpText)
  return r.value.code.toUInt32
