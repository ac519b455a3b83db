import TableClasses.Report.Warning

/-!
# Data types

The data type of a column is recognized by its keyword: the first word, in small letters, before any
parenthesis. Lengths, precisions and attributes do not matter.
-/

namespace TableClasses.Schema

open TableClasses.Text

/-- The first word of a text. -/
def firstWord (s : List Char) : List Char := (s.dropWhile isBlank).takeWhile (!isBlank ·)

/-- The keyword of a data type. -/
def keyword (type : String) : String :=
  String.ofList (firstWord ((lowerText (trimBlanks type)).toList.takeWhile (· != '(')))

def keywords : List (Scalar × List String) :=
  [(.int, ["tinyint", "smallint", "mediumint", "int", "integer", "bigint", "year"]),
   (.float, ["float", "double", "real", "decimal", "numeric"]),
   (.bool, ["bool", "boolean", "bit"]),
   (.string, ["char", "varchar", "tinytext", "text", "mediumtext", "longtext", "binary",
     "varbinary", "tinyblob", "blob", "mediumblob", "longblob", "enum", "set", "time", "uuid"]),
   (.json, ["json"]),
   (.datetime, ["date", "datetime", "timestamp"])]

/-- The category of a data type with a known keyword. -/
def scalarOf? (type : String) : Option Scalar :=
  (keywords.find? fun e => e.2.contains (keyword type)).map (·.1)

/-- The category of a data type; an unknown one is treated as a string. -/
def scalarOf (type : String) : Warned Scalar :=
  match scalarOf? type with
  | some s => pure s
  | none => do
    warn (.unsupportedDataType type)
    return .string

end TableClasses.Schema
