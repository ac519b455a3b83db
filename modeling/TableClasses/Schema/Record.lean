import TableClasses.Json.Value
import TableClasses.Text.Quoted

/-!
# Column records

A column record is an object whose keys name facts about a column; each fact has one name and
perhaps further ones. `Layout.decode` collects the facts, whatever the order of the keys and
whichever names are used; a key that names nothing is ignored, and a fact may be given once. An
array gives the facts by position. Facts that are not given are null.
-/

namespace TableClasses.Schema

/-- A fact about a column. -/
inductive Fact where
  | dataType
  | nullable
  | default
  | maxLength
  | key
  | comment
  deriving DecidableEq, Repr

/-- What is recorded of a column. -/
structure Record where
  dataType : Json := .null
  nullable : Json := .null
  default : Json := .null
  maxLength : Json := .null
  key : Json := .null
  comment : Json := .null

namespace Record

def get (r : Record) : Fact → Json
  | .dataType => r.dataType
  | .nullable => r.nullable
  | .default => r.default
  | .maxLength => r.maxLength
  | .key => r.key
  | .comment => r.comment

def set (r : Record) (f : Fact) (v : Json) : Record :=
  match f with
  | .dataType => { r with dataType := v }
  | .nullable => { r with nullable := v }
  | .default => { r with default := v }
  | .maxLength => { r with maxLength := v }
  | .key => { r with key := v }
  | .comment => { r with comment := v }

@[simp] theorem get_set_self (r : Record) (f : Fact) (v : Json) : (r.set f v).get f = v := by
  cases f <;> rfl

theorem get_set_of_ne (r : Record) {f g : Fact} (v : Json) (h : f ≠ g) :
    (r.set f v).get g = r.get g := by
  cases f <;> cases g <;> first | rfl | exact absurd rfl h

end Record

/-- Why a value is no record. -/
inductive RecordFault where
  | repeated (fact : String)
  | tooLong (length : Nat)
  | notARecord (layout : String) (found : Json)

/-- How messages call a value that is neither an object nor an array. -/
def describe : Json → String
  | .null => "null"
  | .bool b => "boolean `" ++ (if b then "true" else "false") ++ "`"
  | .number (.int i) => "integer `" ++ toString i ++ "`"
  | .number (.float x) => "floating point `" ++ x.pointedText ++ "`"
  | .string s => "string " ++ Text.quoted s
  | .array _ => "sequence"
  | .object _ => "map"

def RecordFault.message : RecordFault → String
  | repeated fact => "duplicate field `" ++ fact ++ "`"
  | tooLong n => "invalid length " ++ toString n ++ ", expected fewer elements in array"
  | notARecord layout found =>
    "invalid type: " ++ describe found ++ ", expected struct " ++ layout

/-- The facts of a kind of record in their order, each with its name and its further names. -/
structure Layout where
  name : String
  facts : List (Fact × String × List String)

namespace Layout

/-- The fact that a key names, with the fact's own name. -/
def fact? (l : Layout) (key : String) : Option (Fact × String) :=
  (l.facts.find? fun (_, name, others) => name == key || others.contains key).map
    fun (f, name, _) => (f, name)

/-- Collects the facts of an object; `seen` are those collected before. -/
def collect (l : Layout) (seen : List Fact) (r : Record) :
    List (String × Json) → Except RecordFault Record
  | [] => .ok r
  | (key, v) :: rest =>
    match l.fact? key with
    | none => collect l seen r rest
    | some (f, name) =>
      if f ∈ seen then .error (.repeated name) else collect l (f :: seen) (r.set f v) rest

/-- Gives the facts their values by position. -/
def assign (r : Record) : List Fact → List Json → Record
  | f :: fs, v :: vs => assign (r.set f v) fs vs
  | _, _ => r

def decode (l : Layout) : Json → Except RecordFault Record
  | .object es => l.collect [] {} es
  | .array vs =>
    if l.facts.length < vs.length then .error (.tooLong vs.length)
    else .ok (assign {} (l.facts.map (·.1)) vs)
  | v => .error (.notARecord l.name v)

end Layout

/-- Records as a database catalog gives them. -/
def catalogLayout : Layout :=
  { name := "CatalogColumn"
    facts :=
      [(.dataType, "DATA_TYPE", ["dataType", "data_type"]),
       (.nullable, "IS_NULLABLE", ["isNullable", "nullable"]),
       (.default, "COLUMN_DEFAULT", ["columnDefault", "default"]),
       (.maxLength, "CHARACTER_MAXIMUM_LENGTH", ["characterMaximumLength", "maxLength"]),
       (.key, "COLUMN_KEY", ["columnKey"]),
       (.comment, "COLUMN_COMMENT", ["columnComment", "comment"])] }

/-- Records of a table whose columns are grouped by access. -/
def groupedLayout : Layout :=
  { name := "GroupedColumn"
    facts :=
      [(.dataType, "type", []),
       (.nullable, "nullable", ["nullbale"]),
       (.default, "default", []),
       (.maxLength, "maxLength", ["max_length"]),
       (.comment, "comment", [])] }

end TableClasses.Schema
