import TableClasses.Json.Value
import TableClasses.Text.Split
import TableClasses.Decimal.Numeral

/-!
# Layers of settings

Settings come from several sources, of which a later one goes over those before it. A layer is a
list of keys with values. A key may be a path into the document: names behind dots and positions
between brackets, where a negative position counts from the end and spaces may stand around it. An
object goes over an object key by key; anything else replaces what was there.
-/

namespace TableClasses.Layer

open Text

/-- A step of a path into a document. -/
inductive Step where
  | name (key : String)
  | position (index : Int)
  deriving DecidableEq, Repr

def isNameChar (c : Char) : Bool := c.isAlphanum || c == '_' || c == '-'

/-- The name at the front of a text, and the rest. -/
def readName (s : List Char) : Option (Step × List Char) :=
  let name := s.takeWhile isNameChar
  if name.isEmpty then none else some (.name (String.ofList name), s.dropWhile isNameChar)

/-- What follows the spaces and tabs at the front of a text. -/
def skipSpaces (s : List Char) : List Char := s.dropWhile fun c => c == ' ' || c == '\t'

/-- The position in front of a closing bracket, with spaces around it, and what follows the
bracket. -/
def readPosition (s : List Char) : Option (Step × List Char) :=
  let (negative, digits) := match skipSpaces s with
    | '-' :: t => (true, t)
    | t => (false, t)
  match skipSpaces (digits.dropWhile Char.isDigit) with
  | ']' :: rest =>
    (Decimal.natOf? (digits.takeWhile Char.isDigit)).bind fun n =>
      let i : Int := if negative then -(n : Int) else n
      if Decimal.inInt64 i then some (.position i, rest) else none
  | _ => none

/-- The steps after the first one; `fuel` bounds their number. -/
def readSteps : Nat → List Char → Option (List Step)
  | _, [] => some []
  | 0, _ :: _ => none
  | fuel + 1, c :: s =>
    let step := if c = '.' then readName s else if c = '[' then readPosition s else none
    match step with
    | some (first, rest) => (readSteps fuel rest).map (first :: ·)
    | none => none

/-- The path that a key is. A key that cannot be read as a path is one name. -/
def stepsOf (key : String) : List Step :=
  let path := do
    let (first, rest) ← readName key.toList
    return first :: (← readSteps rest.length rest)
  path.getD [.name key]

mutual

/-- A document with another one over it. -/
def cover (old : Json) : Json → Json
  | .object es => .object (coverEntries (old.entries?.getD []) es)
  | v => v

def coverEntries (base : Entries Json) : List (String × Json) → Entries Json
  | [] => base
  | (k, v) :: rest => coverEntries (base.put k (cover ((base.get? k).getD .null) v)) rest

end

/-- A list made long enough to have a position, and where the position then is. -/
def reach (vs : List Json) (i : Int) : List Json × Nat :=
  if 0 ≤ i then (vs ++ List.replicate (i.toNat + 1 - vs.length) .null, i.toNat)
  else
    let back := i.natAbs
    if back ≤ vs.length then (vs, vs.length - back)
    else (List.replicate (back - vs.length) .null ++ vs, 0)

/-- Changes what a path leads to. What is missing on the way, or is of another kind, is made. -/
def change (f : Json → Json) : List Step → Json → Json
  | [], doc => f doc
  | .name key :: path, doc =>
    let es := doc.entries?.getD []
    .object (es.put key (change f path ((es.get? key).getD .null)))
  | .position i :: path, doc =>
    let items := match doc with
      | .array vs => vs
      | _ => []
    let (vs, n) := reach items i
    .array (vs.set n (change f path (vs[n]?.getD .null)))

/-- A document with a layer over it. -/
def apply (doc : Json) (layer : List (String × Json)) : Json :=
  layer.foldl (fun doc (key, v) => change (cover · v) (stepsOf key) doc) doc

end TableClasses.Layer
