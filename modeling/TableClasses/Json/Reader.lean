import TableClasses.Json.Value
import TableClasses.Decimal.Numeral
import TableClasses.Text.Split

/-!
# Reading documents

The grammar of JSON texts. A reader takes characters off the front of the text and either fails or
gives what it read and the rest. Nesting is limited to 127 levels. `fuel` bounds the number of
values and separators read; `Json.parse?` supplies more of it than the text has characters.

A fraction or an exponent makes a number a binary fraction, as does a whole number that 64 bits do
not hold. Its digits are gathered into 64 bits, and the product or quotient with a rounded power of
ten is the value, so it may lie one step beside the nearest one.
-/

namespace TableClasses

open Decimal

namespace Json

/-! ## Numbers -/

/-- Gathers whole digits: from the first that does not fit on, digits are only counted. -/
def gatherWhole (limit significand dropped : Nat) : List Char → Nat × Nat
  | [] => (significand, dropped)
  | c :: rest =>
    let next := 10 * significand + digitValue c
    if dropped = 0 ∧ next < limit then gatherWhole limit next 0 rest
    else gatherWhole limit significand (dropped + 1) rest

/-- Gathers digits after the point until one does not fit; the second part counts those taken. -/
def gatherFraction (limit significand taken : Nat) : List Char → Nat × Nat
  | [] => (significand, taken)
  | c :: rest =>
    let next := 10 * significand + digitValue c
    if next < limit then gatherFraction limit next (taken + 1) rest else (significand, taken)

/-- The power of ten as a binary number. -/
def powerOfTen (n : Nat) : Binary64 := Binary64.ofNat (Nat.pow 10 n)

/-- `f · 10 ^ e` by rounded steps of at most 308 places; nothing if it is too large. Three steps
down take any significand to zero. -/
def scale : Nat → Binary64 → Int → Option Binary64
  | 0, f, _ => some f
  | fuel + 1, f, e =>
    if e.natAbs ≤ 308 then
      if 0 ≤ e then
        let product := f.mul (powerOfTen e.natAbs)
        if product.isFinite then some product else none
      else some (f.div (powerOfTen e.natAbs))
    else if f.isZero then some f
    else if 0 ≤ e then none
    else scale fuel (f.div (powerOfTen 308)) (e + 308)

/-- The binary fraction written with these digits and this exponent. -/
def fractionOf? (negative : Bool) (whole fraction : List Char) (exponent : Int) :
    Option Binary64 :=
  let (s, dropped) := gatherWhole (bound 64) 0 0 whole
  let (s, taken) := gatherFraction (bound 64) s 0 fraction
  let f := scale 4 (Binary64.ofNat s) ((dropped : Int) - taken + exponent)
  if negative then f.map Binary64.neg else f

/-- Whether a whole number is kept as one: 64 bits, with or without a sign, and no negative
zero. -/
def keepsWhole (negative : Bool) (n : Nat) : Bool :=
  if negative then decide (0 < n) && decide (n ≤ bound 63) else decide (n < bound 64)

/-- The number written with these digits; the exponent and the fraction are absent in a whole
number. -/
def numberOf? (negative : Bool) (whole : List Char) (fraction : Option (List Char))
    (exponent : Option Int) : Option Number :=
  let n := digitsValue 0 whole
  if fraction.isNone && exponent.isNone && keepsWhole negative n then
    some (.int (if negative then -(n : Int) else n))
  else
    (fractionOf? negative whole (fraction.getD []) (exponent.getD 0)).map .float

/-- Reads the exponent after its letter. -/
def readExponent (s : List Char) : Option (Int × List Char) :=
  let (negative, t) := splitSign s
  let digits := t.takeWhile Char.isDigit
  (natOf? digits).map fun n =>
    (if negative then -(n : Int) else n, t.dropWhile Char.isDigit)

/-- Reads a number. A zero may not be followed by further whole digits. -/
def readNumber (s : List Char) : Option (Number × List Char) := do
  let (negative, s) := match s with
    | '-' :: t => (true, t)
    | t => (false, t)
  let whole := s.takeWhile Char.isDigit
  let s := s.dropWhile Char.isDigit
  guard (!whole.isEmpty && (whole.length == 1 || whole.head? != some '0'))
  let (fraction, s) ← match s with
    | '.' :: t =>
      let digits := t.takeWhile Char.isDigit
      if digits.isEmpty then none else some (some digits, t.dropWhile Char.isDigit)
    | t => some (none, t)
  let (exponent, s) ← match s with
    | c :: t =>
      if c == 'e' || c == 'E' then (readExponent t).map fun (e, t) => (some e, t)
      else some (none, c :: t)
    | [] => some (none, [])
  let n ← numberOf? negative whole fraction exponent
  return (n, s)

/-! ## Strings -/

def hexValue? (c : Char) : Option Nat :=
  if c.isDigit then some (c.toNat - '0'.toNat)
  else if 'a' ≤ c ∧ c ≤ 'f' then some (c.toNat - 'a'.toNat + 10)
  else if 'A' ≤ c ∧ c ≤ 'F' then some (c.toNat - 'A'.toNat + 10)
  else none

/-- The number that hexadecimal digits spell. -/
def hexOf? (cs : List Char) : Option Nat :=
  cs.foldlM (fun n c => (hexValue? c).map (16 * n + ·)) 0

/-- The character that a letter after a backslash stands for. -/
def simpleEscape? : Char → Option Char
  | '"' => some '"'
  | '\\' => some '\\'
  | '/' => some '/'
  | 'b' => some (Char.ofNat 8)
  | 'f' => some (Char.ofNat 12)
  | 'n' => some '\n'
  | 'r' => some '\r'
  | 't' => some '\t'
  | _ => none

/-- The character with these two surrogate units. -/
def surrogatePair? (high low : Nat) : Option Char :=
  if 0xDC00 ≤ low ∧ low < 0xE000 then
    some (Char.ofNat (0x10000 + (high - 0xD800) * 0x400 + (low - 0xDC00)))
  else none

/-- Puts a character in front of what was read. -/
def prepend (c : Option Char) (r : Option (List Char × List Char)) :
    Option (List Char × List Char) := do
  let c ← c
  let (s, rest) ← r
  return (c :: s, rest)

/-- Reads a string up to its closing quote. A unit of a surrogate pair that stands alone and a raw
control character are refused. -/
def readString : List Char → Option (List Char × List Char)
  | [] => none
  | '"' :: rest => some ([], rest)
  | '\\' :: 'u' :: a :: b :: c :: d :: rest =>
    match hexOf? [a, b, c, d] with
    | none => none
    | some n =>
      if 0xD800 ≤ n ∧ n < 0xDC00 then
        match rest with
        | '\\' :: 'u' :: e :: f :: g :: h :: rest =>
          prepend ((hexOf? [e, f, g, h]).bind (surrogatePair? n)) (readString rest)
        | _ => none
      else if 0xDC00 ≤ n ∧ n < 0xE000 then none
      else prepend (some (Char.ofNat n)) (readString rest)
  | '\\' :: c :: rest => prepend (simpleEscape? c) (readString rest)
  | c :: rest => if c.toNat < 0x20 ∨ c = '\\' then none else prepend (some c) (readString rest)

/-! ## Values -/

def isSpace (c : Char) : Bool := c == ' ' || c == '\n' || c == '\t' || c == '\r'

def skipSpaces (s : List Char) : List Char := s.dropWhile isSpace

mutual

/-- Reads a value; `depth` is the number of levels that may still be opened. -/
def readValue : Nat → Nat → List Char → Option (Json × List Char)
  | 0, _, _ => none
  | fuel + 1, depth, s =>
    match skipSpaces s with
    | 'n' :: t => (Text.dropPrefix? ['u', 'l', 'l'] t).map fun t => (null, t)
    | 't' :: t => (Text.dropPrefix? ['r', 'u', 'e'] t).map fun t => (bool true, t)
    | 'f' :: t => (Text.dropPrefix? ['a', 'l', 's', 'e'] t).map fun t => (bool false, t)
    | '"' :: t => (readString t).map fun (cs, t) => (string (String.ofList cs), t)
    | '[' :: t =>
      match depth with
      | 0 => none
      | depth + 1 =>
        match skipSpaces t with
        | ']' :: t => some (array [], t)
        | t => (readItems fuel depth t).map fun (vs, t) => (array vs, t)
    | '\x7b' :: t =>
      match depth with
      | 0 => none
      | depth + 1 =>
        match skipSpaces t with
        | '\x7d' :: t => some (object [], t)
        | t => (readEntries fuel depth t).map fun (es, t) => (object (Entries.ofList es), t)
    | t => (readNumber t).map fun (n, t) => (number n, t)

/-- Reads one or more items and the closing bracket. -/
def readItems : Nat → Nat → List Char → Option (List Json × List Char)
  | 0, _, _ => none
  | fuel + 1, depth, s => do
    let (v, s) ← readValue fuel depth s
    match skipSpaces s with
    | ']' :: t => some ([v], t)
    | ',' :: t => (readItems fuel depth t).map fun (vs, t) => (v :: vs, t)
    | _ => none

/-- Reads one or more entries and the closing brace. -/
def readEntries : Nat → Nat → List Char → Option (List (String × Json) × List Char)
  | 0, _, _ => none
  | fuel + 1, depth, s =>
    match skipSpaces s with
    | '"' :: t => do
      let (key, t) ← readString t
      match skipSpaces t with
      | ':' :: t =>
        let (v, t) ← readValue fuel depth t
        let entry := (String.ofList key, v)
        match skipSpaces t with
        | '\x7d' :: t => some ([entry], t)
        | ',' :: t => (readEntries fuel depth t).map fun (es, t) => (entry :: es, t)
        | _ => none
      | _ => none
    | _ => none

end

/-- The deepest nesting that is read. -/
def maxDepth : Nat := 127

/-- The document that a text holds, with nothing but spaces around it. -/
def parse? (text : String) : Option Json :=
  let s := text.toList
  match readValue (2 * s.length + 2) maxDepth s with
  | some (v, rest) => if (skipSpaces rest).isEmpty then some v else none
  | none => none

end Json

end TableClasses
