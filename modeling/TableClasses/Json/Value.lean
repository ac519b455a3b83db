import TableClasses.Entries
import TableClasses.Decimal.Layout

/-!
# Documents

A decoded document. Objects keep the order of their keys. A number is a whole number, of at most 64
bits where a text is read as JSON, or a binary fraction. `Json.text` is the compact text of a value,
in which messages quote it.
-/

namespace TableClasses

open Decimal

/-- A number of a document. -/
inductive Number where
  | int (value : Int)
  | float (value : Binary64)
  deriving DecidableEq, Repr

namespace Number

def text : Number → String
  | int i => toString i
  | float x => x.documentText

def isZero : Number → Bool
  | int i => i == 0
  | float x => x.isZero

end Number

/-- A decoded document. -/
inductive Json where
  | null
  | bool (value : Bool)
  | number (value : Number)
  | string (value : String)
  | array (items : List Json)
  | object (entries : List (String × Json))
  deriving Repr

namespace Json

instance : Inhabited Json := ⟨null⟩

/-- The entries of an object. -/
def entries? : Json → Option (Entries Json)
  | object es => some es
  | _ => none

/-- The value under a key of an object. -/
def field? (doc : Json) (name : String) : Option Json :=
  match doc with
  | object es => Entries.get? es name
  | _ => none

/-! ## Compact text -/

/-- How one character is written in a string. -/
def escapedChar (c : Char) : List Char :=
  if c = '"' then ['\\', '"']
  else if c = '\\' then ['\\', '\\']
  else if c = Char.ofNat 8 then ['\\', 'b']
  else if c = Char.ofNat 9 then ['\\', 't']
  else if c = Char.ofNat 10 then ['\\', 'n']
  else if c = Char.ofNat 12 then ['\\', 'f']
  else if c = Char.ofNat 13 then ['\\', 'r']
  else if c.toNat < 16 then ['\\', 'u', '0', '0', '0'] ++ Nat.toDigits 16 c.toNat
  else if c.toNat < 32 then ['\\', 'u', '0', '0'] ++ Nat.toDigits 16 c.toNat
  else [c]

def stringText (s : String) : String :=
  String.ofList (['"'] ++ s.toList.flatMap escapedChar ++ ['"'])

mutual

/-- The text of a value without blanks. -/
def text : Json → String
  | null => "null"
  | bool true => "true"
  | bool false => "false"
  | number n => n.text
  | string s => stringText s
  | array items => "[" ++ ",".intercalate (itemTexts items) ++ "]"
  | object es => "\x7b" ++ ",".intercalate (entryTexts es) ++ "\x7d"

def itemTexts : List Json → List String
  | [] => []
  | v :: rest => v.text :: itemTexts rest

def entryTexts : List (String × Json) → List String
  | [] => []
  | (k, v) :: rest => (stringText k ++ ":" ++ v.text) :: entryTexts rest

end

end Json

end TableClasses
