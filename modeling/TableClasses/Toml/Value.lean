import TableClasses.Json.Value
import TableClasses.Toml.Datetime

/-!
# Values of TOML documents

Tables keep the order of their keys, and a whole number has any size. As a document (`toJson?`) a
number that is infinite or none becomes null, and a date or time becomes an object with its text.
Such an object may also be spelled out: a table whose first key is the one for dates and times is
the date or time that it holds. Numbers beyond the 64-bit formats have no document.
-/

namespace TableClasses

open Decimal

/-- A TOML value; a table is a value too. -/
inductive Toml where
  | bool (value : Bool)
  | integer (value : Int)
  | float (value : Binary64)
  /-- A numeral with a fraction or an exponent that is too large for the format of floats. -/
  | overflow (negative : Bool)
  | string (value : String)
  | datetime (value : Toml.Datetime)
  | array (items : List Toml)
  | table (entries : List (String × Toml))
  deriving Repr

namespace Toml

instance : Inhabited Toml := ⟨table []⟩

/-- The key under which a date or time stands in a document. -/
def datetimeKey : String := "$__toml_private_datetime"

/-- A date or time as a document: its full form. -/
def Datetime.toJson (d : Datetime) : Json := .object [(datetimeKey, .string d.full.text)]

/-- The date or time that a string spells. -/
def spelled? : Toml → Option Datetime
  | string s => Datetime.read? s.toList
  | _ => none

mutual

def toJson? : Toml → Option Json
  | .bool b => some (.bool b)
  | .integer i => if inInt64 i then some (.number (.int i)) else none
  | .float x => some (if x.isFinite then .number (.float x) else .null)
  | .overflow _ => none
  | .string s => some (.string s)
  | .datetime d => some d.toJson
  | .array items => (itemsToJson? items).map .array
  | .table es =>
    match es.head? with
    | some (k, v) =>
      if k = datetimeKey then v.spelled?.map Datetime.toJson
      else (entriesToJson? es).map .object
    | none => some (.object [])

def itemsToJson? : List Toml → Option (List Json)
  | [] => some []
  | v :: rest => do return (← v.toJson?) :: (← itemsToJson? rest)

def entriesToJson? : List (String × Toml) → Option (List (String × Json))
  | [] => some []
  | (k, v) :: rest => do return (k, ← v.toJson?) :: (← entriesToJson? rest)

end

end Toml

end TableClasses
