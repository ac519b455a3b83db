import TableClasses.Classes.Build
import TableClasses.Output.Options

/-!
# Settings

Everything that a run can be told: which documents it reads, which tables and classes it generates,
how it renders them, and how it writes files.
-/

namespace TableClasses

open Classes

structure Settings where
  schemaFile : String := ""
  metaFile : Option String := none
  /-- The only table to generate, if one is named. -/
  table : Option String := none
  /-- The names of the kinds of classes to generate. -/
  artifacts : List String := Kind.all.map Kind.name
  rendering : Rendering := {}
  output : Output.Options := {}
  /-- Types that are known besides those of the libraries. -/
  valueObjects : List ValueObject.TypeDecl := []
  logLevel : Option String := none
  deriving DecidableEq, Repr

namespace Settings

/-- The kinds to generate; each name that requests none is reported. -/
def kinds (s : Settings) : Warned (List Kind) :=
  let (kinds, unknown) := Kind.request s.artifacts
  ⟨kinds, unknown.map .generatorUnknown⟩

/-- The name that stands for all tables. -/
def allTables : String := "-"

/-- The table to which a run is restricted. -/
def onlyTable? (s : Settings) : Option String := s.table.filter (· != allTables)

end Settings

end TableClasses
