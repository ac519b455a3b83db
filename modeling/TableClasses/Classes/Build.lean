import TableClasses.Classes.Names
import TableClasses.Code.Syntax
import TableClasses.Report.Warning
import TableClasses.Text.Lines

/-!
# Building classes

What all generated classes share: the classes of the library on which they build, the settings of a
run, and work that imports classes into the file at hand and reports warnings.
-/

namespace TableClasses.Classes

open TableClasses.Naming TableClasses.Code

/-- The classes of the library that generated classes extend and implement. -/
structure Library where
  dataInterface : String := "MondayFactory\\DatabaseModel\\Data\\IDatabaseData"
  collectionBase : String := "MondayFactory\\DatabaseModel\\Colection\\BaseDatabaseDataCollection"
  collectionInterface : String :=
    "MondayFactory\\DatabaseModel\\Colection\\IDatabaseDataCollection"
  storageBase : String :=
    "MondayFactory\\DatabaseModel\\Storage\\ALowLevelRelationalDatabaseStorage"
  deriving DecidableEq, Repr

/-- How classes are rendered. -/
structure Rendering where
  baseNamespace : String := "App\\Model"
  keyStyle : KeyStyle := .camelCase
  datetimeFormat : String := "Y-m-d H:i:s"
  library : Library := {}
  deriving DecidableEq, Repr

/-- Work on a file that collects its imports. -/
abbrev Importing := StateM Imports

/-- The reference to a class in the file at hand. -/
def reference (className : String) : Importing String := fun i => i.use className

/-- A body of code in one piece, which is cut into lines. -/
def code (text : String) : List String := Text.lineTexts text

/-- A method that calls the parent's one, checks what it gives, and returns it. -/
def delegation (call check : String) : List String :=
  code ("$data = parent::" ++ call ++ ";\n" ++ check ++ "\n\nreturn $data;")

end TableClasses.Classes
