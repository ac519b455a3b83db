import TableClasses.Naming.Style
import TableClasses.ValueObject.Mapping

/-!
# Columns

What the classes of a table need to know about a column: its scalar category, whether it may be
null, its default, and the value object that wraps it. The members generated for a column are named
after it.
-/

namespace TableClasses

open Naming ValueObject

/-- The category of the values of a column. -/
inductive Scalar where
  | int
  | float
  | bool
  | string
  | json
  | datetime
  deriving DecidableEq, Repr

namespace Scalar

def name : Scalar → String
  | int => "int"
  | float => "float"
  | bool => "bool"
  | string => "string"
  | json => "json"
  | datetime => "datetime"

/-- The type in signatures. -/
def signatureType : Scalar → String
  | int => "int"
  | float => "float"
  | bool => "bool"
  | string => "string"
  | json => "array"
  | datetime => "\\DateTimeInterface"

/-- The cast of a raw value, if a cast is how it is converted. -/
def cast? : Scalar → Option String
  | int => some "(int)"
  | float => some "(float)"
  | bool => some "(bool)"
  | string => some "(string)"
  | json => none
  | datetime => none

/-- Whether a default of a column can be written as a literal. -/
def hasLiterals : Scalar → Bool
  | json => false
  | datetime => false
  | _ => true

def all : List Scalar := [int, float, bool, string, json, datetime]

/-- The category with this name. -/
def ofName? (s : String) : Option Scalar := all.find? (·.name == s)

end Scalar

/-- A column of a table. -/
structure Column where
  name : String
  scalar : Scalar
  nullable : Bool := false
  /-- The default as text; none also for a default of null. -/
  default : Option String := none
  /-- The greatest length of a value, 0 if there is none or it is not known. -/
  maxLength : Nat := 0
  /-- Whether only a row read from the database sets the column. -/
  readOnly : Bool := false
  valueObject : Option Mapping := none
  deriving DecidableEq, Repr

namespace Column

/-- The property and constructor parameter of the column. -/
def field (c : Column) : String := camel c.name

def getter (c : Column) : String := "get" ++ pascal c.name

def setter (c : Column) : String := "set" ++ pascal c.name

/-- The field without regard to case, as which columns are told apart. -/
def fieldKey (c : Column) : String := Text.lowerText c.field

/-- The type in signatures. -/
def publicType (c : Column) : String :=
  match c.valueObject with
  | some m => m.interfaceName
  | none => c.scalar.signatureType

def isValueObject (c : Column) : Bool := c.valueObject.isSome

/-- Whether a constructor parameter may have a default: a text other than the empty one without a
value object, the text `0`, or none if the column may be null. -/
def hasDefault (c : Column) : Bool :=
  match c.default with
  | some d => d == "0" || d != "" && !c.isValueObject
  | none => c.nullable

end Column

end TableClasses
