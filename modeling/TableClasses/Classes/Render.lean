import TableClasses.Classes.Collection
import TableClasses.Classes.Data
import TableClasses.Classes.Storage
import TableClasses.Code.Printer

/-!
# Rendered classes

A generated file is the source text of one class of one table. All kinds that are asked for are
rendered for all tables, kind by kind.
-/

namespace TableClasses.Classes

open TableClasses.Code

/-- The tree of a class. -/
def build (r : Rendering) (k : Kind) (t : Table) : Warned File :=
  let names := Names.ofTable r.baseNamespace t.name
  match k with
  | .data => dataFile t names r
  | .collection => pure (collectionFile t names r.library)
  | .storage => pure (storageFile t names r.library)

/-- A rendered class. -/
structure Generated where
  table : String
  kind : Kind
  className : String
  content : String
  deriving DecidableEq, Repr

def render (r : Rendering) (k : Kind) (t : Table) : Warned Generated := do
  let file ← build r k t
  return { table := t.name, kind := k, className := file.className, content := file.text }

/-- Renders every kind for every table, kind by kind. -/
def renderAll (r : Rendering) (kinds : List Kind) (tables : List Table) :
    Warned (List Generated) := do
  return (← kinds.mapM fun k => tables.mapM (render r k)).flatten

end TableClasses.Classes
