import TableClasses.CommandLine.Arguments
import TableClasses.Generate
import TableClasses.Settings.Load

/-!
# Executing a command

The settings come from the settings file, the environment and the arguments, each over those before.
Then classes are generated, or the normalized tables are listed.
-/

namespace TableClasses.CommandLine

open Files

/-! ## Listing tables -/

/-- The lines about a column. -/
def columnText (c : Column) : String :=
  "    - " ++ c.name ++ " " ++ c.scalar.name ++ (if c.nullable then " NULL" else " NOT NULL")
    ++ (if c.readOnly then " READONLY" else "") ++ "\n"
    ++ (match c.default with
      | some d => "      DEFAULT: " ++ d ++ "\n"
      | none => "")
    ++ (match c.valueObject with
      | some m => "      VALUE OBJECT: " ++ m.interfaceName ++ "\n"
      | none => "")

def tableText (t : Table) : String :=
  "Table: " ++ t.name ++ "\n  Columns:\n" ++ String.join (t.columns.map columnText)
    ++ (match t.primaryKey with
      | some key => "  Primary Key: " ++ key ++ "\n"
      | none => "")
    ++ "\n"

def listingText (tables : List Table) : String :=
  "Normalized " ++ toString tables.length ++ " tables:\n\n" ++ String.join (tables.map tableText)

/-! ## Commands -/

def versionText : String := "datamodel-codegen 0.1.0\n"

def helpText : String :=
  "\n".intercalate
    ["Generate PHP data, collection and storage classes from a table schema",
     "",
     "Usage: datamodel-codegen [OPTIONS] [TABLE] [ARTIFACTS]... [COMMAND]",
     "",
     "Commands: generate, inspect, help",
     "",
     "Options:",
     "  -c, --config <CONFIG>",
     "  -s, --schema <SCHEMA>",
     "  -m, --meta <META>",
     "  -o, --output <OUTPUT>",
     "      --namespace <NAMESPACE>",
     "  -I, --ignored-namespace <IGNORED_NAMESPACE>",
     "      --dry-run",
     "  -f, --force",
     "  -p, --print",
     "  -h, --help",
     "  -V, --version",
     ""]

/-- How a command ends. -/
inductive Ending where
  | done (output : String)
  | failed (error : Error)
  /-- The arguments make no sense. -/
  | refused

namespace Ending

/-- The number with which the program ends. -/
def code : Ending → Nat
  | done _ => 0
  | failed _ => 1
  | refused => 2

def output : Ending → String
  | done text => text
  | _ => ""

end Ending

variable {m : Type → Type} [Monad m] [Access m]

/-- Runs the command of the arguments with complete settings. -/
def perform (command : Option Command) (s : Settings) : Run m String := do
  match command with
  | some .inspect =>
    s.validate
    return listingText (← s.loadTables)
  | _ => return (← s.generate).printed

/-- Runs what arguments ask for. -/
def execute (arguments : List String) (environment : List (String × String)) :
    Reporting m Ending := do
  match Arguments.read arguments with
  | .refused => return .refused
  | .version => return .done versionText
  | .help => return .done helpText
  | .run a =>
    match ← (Settings.load (a.value? .config) environment : m (Except Error Settings)) with
    | .error e => return .failed e
    | .ok s =>
      match ← (perform a.command (a.applyTo s) : Run m String).run with
      | .ok output => return .done output
      | .error e => return .failed e

end TableClasses.CommandLine
