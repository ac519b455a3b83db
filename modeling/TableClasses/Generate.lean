import TableClasses.Classes.Render
import TableClasses.Output.Write
import TableClasses.Schema.Format
import TableClasses.Schema.Normalize
import TableClasses.Settings

/-!
# Generating classes

A run checks its settings, reads the schema and perhaps the overlay, normalizes the tables, selects
those that are asked for, renders their classes and writes them. Only what comes before writing can
end a run with an error; what happens to the files is recorded in the report.
-/

namespace TableClasses

open Files Schema ValueObject Classes

/-! ## Documents -/

section Documents

variable {m : Type → Type} [Monad m] [Access m]

/-- The document in a file; the format is looked at before the file. -/
def loadDocument (path : String) : Run m Json := do
  let format ← Run.orFail .load (Format.ofPath path)
  let text ← Run.orFail (.load <| .unreadable path ·) (← Run.act (readText path))
  match format.parse? text with
  | some doc => return doc
  | none => throw (.load .malformed)

/-- The overlay in a file that may be missing. -/
def loadOverlay (path : String) : Run m (Option Overlay) := do
  if ← Run.act (Access.present path) then
    let doc ← loadDocument path
    let overlay ← Run.report (← Run.orFail .schema (overlayOf doc))
    return some overlay
  else
    Run.report (warn (.metaFileMissing path))
    return none

end Documents

namespace Settings

/-! ## Tables -/

/-- The types of the libraries and those of the settings. -/
def catalog (s : Settings) : Catalog := builtinTypes.registerAll s.valueObjects

/-- The tables that are asked for. -/
def select (s : Settings) (tables : List Table) : Except Error (List Table) :=
  match s.onlyTable? with
  | some name =>
    let named := tables.filter (·.name == name)
    if named.isEmpty then .error (.tableNotFound name s.schemaFile) else .ok named
  | none => if tables.isEmpty then .error .noTables else .ok tables

variable {m : Type → Type} [Monad m] [Access m]

/-- Why the settings cannot be used, if so. -/
def validate (s : Settings) : Run m Unit := do
  if s.schemaFile = "" then throw (.settings .noSchemaFile)
  if !(← Run.act (Access.present s.schemaFile)) then
    throw (.settings (.schemaFileMissing s.schemaFile))
  if Text.trimBackslashes s.rendering.baseNamespace = "" then throw (.settings .emptyNamespace)
  if (← Run.report s.kinds).isEmpty then throw (.settings .noGenerators)

/-- The tables of the schema that are asked for. -/
def loadTables (s : Settings) : Run m (List Table) := do
  let doc ← loadDocument s.schemaFile
  let overlay ← match s.metaFile with
    | some path => loadOverlay path
    | none => pure none
  let (tables, _) ← Run.report (← Run.orFail .schema (normalize overlay (.ofCatalog s.catalog) doc))
  Run.orFail id (s.select tables)

/-- The classes of tables. -/
def renderTables (s : Settings) (tables : List Table) : Warned (List Generated) := do
  renderAll s.rendering (← s.kinds) tables

end Settings

/-! ## Reports -/

/-- What a run has done. -/
structure Report where
  tables : List String
  entries : List Output.Entry
  deriving DecidableEq, Repr

namespace Report

/-- What kept files from being written. -/
def faults (r : Report) : List WriteFault := r.entries.filterMap (·.fault)

/-- The number of files written. -/
def written (r : Report) : Nat := r.entries.countP (·.outcome.isWritten)

def printed (r : Report) : String := String.join (r.entries.map (·.printed))

/-- The closing warnings of a run: every fault once more. -/
def summary (r : Report) : Warned Unit :=
  ⟨(), if r.faults.isEmpty then [] else .finishedWithErrors :: r.faults.map .notWritten⟩

end Report

/-- Generates the classes that the settings ask for. -/
def Settings.generate {m : Type → Type} [Monad m] [Access m] (s : Settings) : Run m Report := do
  s.validate
  let tables ← s.loadTables
  let files ← Run.report (s.renderTables tables)
  let entries ← Run.step (files.mapM fun f => s.output.write f.className f.content)
  let report : Report := { tables := tables.map (·.name), entries }
  Run.report report.summary
  return report

end TableClasses
