import TableClasses.Decimal.Binary64
import TableClasses.Text.Blank

/-!
# Reading numerals

`natOf?` reads a run of digits, `intOf?` allows a sign before it, and `binaryOf?` reads a decimal
with an optional fraction and exponent, or one of the words for infinity and for no number, to the
nearest binary value. A text is read as a whole; nothing around the numeral is skipped.
-/

namespace TableClasses.Decimal

def digitValue (c : Char) : Nat := c.toNat - '0'.toNat

/-- The number that digits spell, continuing from `acc`. -/
def digitsValue (acc : Nat) (ds : List Char) : Nat :=
  ds.foldl (fun n c => 10 * n + digitValue c) acc

/-- A number from digits alone, at least one. -/
def natOf? (s : List Char) : Option Nat :=
  if s ≠ [] ∧ s.all Char.isDigit then some (digitsValue 0 s) else none

/-- Whether the text begins with a minus sign, and what follows the sign. -/
def splitSign : List Char → Bool × List Char
  | '-' :: rest => (true, rest)
  | '+' :: rest => (false, rest)
  | s => (false, s)

/-- A whole number with an optional sign. -/
def intOf? (s : List Char) : Option Int :=
  let (negative, rest) := splitSign s
  (natOf? rest).map fun n => if negative then -(n : Int) else n

/-- The least number that has more than so many bits. -/
def bound (bits : Nat) : Nat := Nat.pow 2 bits

/-- The whole numbers of 64 bits with a sign. -/
def inInt64 (i : Int) : Bool := decide (-(bound 63 : Int) ≤ i) && decide (i < bound 63)

/-- A whole number of 64 bits with an optional sign. -/
def int64Of? (s : String) : Option Int := (intOf? s.toList).filter inInt64

/-- A whole number of 32 bits with an optional plus sign. -/
def nat32Of? (s : String) : Option Nat :=
  let digits := match s.toList with
    | '+' :: rest => rest
    | cs => cs
  (natOf? digits).filter (fun n => decide (n < bound 32))

/-- The value of `digits · 10 ^ exponent`. A leading place beyond the range of the format decides
by itself, so that no huge power is computed. -/
def ofDigits (negative : Bool) (digits : List Char) (exponent : Int) : Binary64 :=
  let n := digitsValue 0 digits
  let place : Int := ((Nat.toDigits 10 n).length : Int) + exponent
  if n = 0 then .finite negative 0 Binary64.minExponent
  else if 400 < place then .infinite negative
  else if place < -400 then .finite negative 0 Binary64.minExponent
  else Binary64.ofDecimal negative n exponent

/-- A decimal without sign: digits, an optional point with digits, an optional exponent. At least
one digit stands beside the point. -/
def decimalOf? (negative : Bool) (s : List Char) : Option Binary64 :=
  let whole := s.takeWhile Char.isDigit
  let afterWhole := s.dropWhile Char.isDigit
  let (fraction, rest) := match afterWhole with
    | '.' :: t => (t.takeWhile Char.isDigit, t.dropWhile Char.isDigit)
    | t => ([], t)
  if whole.isEmpty && fraction.isEmpty then none
  else
    let exponent? := match rest with
      | [] => some 0
      | c :: t => if c == 'e' || c == 'E' then intOf? t else none
    exponent?.map fun e => ofDigits negative (whole ++ fraction) (e - fraction.length)

/-- A decimal with an optional sign, or `inf`, `infinity` or `nan` in any case. -/
def binaryOf? (s : String) : Option Binary64 :=
  let (negative, rest) := splitSign s.toList
  let word := String.ofList (rest.map Char.toLower)
  if word = "inf" ∨ word = "infinity" then some (.infinite negative)
  else if word = "nan" then some .nan
  else decimalOf? negative rest

end TableClasses.Decimal
