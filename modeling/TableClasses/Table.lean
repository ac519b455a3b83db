import TableClasses.Column

/-!
# Tables

A table has a name, columns in the order of their declaration, and perhaps a primary key.
`Table.make` is the only way in which the program builds one: it refuses columns of the same name,
columns whose fields differ in case at most, and a primary key that is no column. The first column
that repeats an earlier one decides the fault, and the primary key is looked at last.
-/

namespace TableClasses

structure Table where
  name : String
  columns : List Column
  primaryKey : Option String
  deriving DecidableEq, Repr

/-- Why columns do not make a table. -/
inductive TableFault where
  | repeated (table column : String)
  | sameField (table first second field : String)
  | unknownKey (table key : String)
  deriving DecidableEq, Repr

def TableFault.message : TableFault → String
  | repeated t c => "Table " ++ t ++ " declares column " ++ c ++ " more than once"
  | sameField t a b f =>
    "Columns " ++ a ++ " and " ++ b ++ " of table " ++ t ++ " map to the same field " ++ f
  | unknownKey t k => "Primary key " ++ k ++ " of table " ++ t ++ " is not one of its columns"

namespace Table

/-- The fault of the first column that repeats the name or the field of an earlier one. -/
def clash? (table : String) (seen : List Column) : List Column → Option TableFault
  | [] => none
  | c :: rest =>
    if seen.any (·.name == c.name) then some (.repeated table c.name)
    else
      match seen.find? (·.fieldKey == c.fieldKey) with
      | some other => some (.sameField table other.name c.name c.field)
      | none => clash? table (seen ++ [c]) rest

/-- The table with these columns, or why there is none. -/
def make (name : String) (columns : List Column) (primaryKey : Option String) :
    Except TableFault Table :=
  match clash? name [] columns with
  | some fault => .error fault
  | none =>
    match primaryKey with
    | some key =>
      if columns.any (·.name == key) then .ok ⟨name, columns, some key⟩
      else .error (.unknownKey name key)
    | none => .ok ⟨name, columns, none⟩

/-- The first column with this name. -/
def column? (t : Table) (name : String) : Option Column := t.columns.find? (·.name == name)

/-- The column of the primary key. -/
def keyColumn? (t : Table) : Option Column := t.primaryKey.bind t.column?

/-- The columns that the constructor sets. -/
def readWrite (t : Table) : List Column := t.columns.filter (!·.readOnly)

/-- The columns that only a row from the database sets. -/
def readOnly (t : Table) : List Column := t.columns.filter (·.readOnly)

end Table

end TableClasses
