import TableClasses.Decimal.Shortest

/-!
# Decimal texts

Digits are laid out by position (`positional`) or with an exponent (`scientific`). A document's
number is written by position while its leading digit stands from the fifth place after the point to
the sixteenth before it. Running text writes every number by position.
-/

namespace TableClasses.Decimal

/-- The place of the leading digit: `d.ddd · 10 ^ place`. -/
def Digits.leading (d : Digits) : Int := ((Nat.toDigits 10 d.digits).length : Int) - 1 + d.exponent

def zeros (n : Nat) : List Char := List.replicate n '0'

/-- Whole part and fraction by position; the fraction is empty for whole numbers. -/
def Digits.positional (d : Digits) : List Char × List Char :=
  let ds := Nat.toDigits 10 d.digits
  if 0 ≤ d.exponent then (ds ++ zeros d.exponent.toNat, [])
  else
    let places := (-d.exponent).toNat
    let padded := zeros (places + 1 - ds.length) ++ ds
    (padded.take (padded.length - places), padded.drop (padded.length - places))

def signText (negative : Bool) : List Char := if negative then ['-'] else []

/-- `d.ddde±x`, without a point before the exponent when there is one digit. -/
def Digits.scientific (d : Digits) : List Char :=
  let mantissa :=
    match Nat.toDigits 10 d.digits with
    | [] => []
    | [c] => [c]
    | c :: cs => c :: '.' :: cs
  let place := d.leading
  mantissa ++ ['e', if place < 0 then '-' else '+'] ++ Nat.toDigits 10 place.natAbs

/-- The text of a number in a document: the shortest digits, at least one of them after the point
when written by position. -/
def documentChars : Binary64 → List Char
  | .nan => "NaN".toList
  | .infinite s => signText s ++ "inf".toList
  | .finite s m e =>
    let d := shortest .toEven m e
    signText s ++
      if m = 0 then "0.0".toList
      else if -5 ≤ d.leading ∧ d.leading ≤ 15 then
        let (whole, fraction) := d.positional
        whole ++ ['.'] ++ (if fraction.isEmpty then ['0'] else fraction)
      else d.scientific

/-- The text of a number in a sentence: the shortest digits by position, no point for whole
numbers. -/
def plainChars : Binary64 → List Char
  | .nan => "NaN".toList
  | .infinite s => signText s ++ "inf".toList
  | .finite s m e =>
    let (whole, fraction) := (shortest .up m e).positional
    signText s ++ whole ++ (if fraction.isEmpty then [] else '.' :: fraction)

/-- The text of a number in a sentence, with a place after the point also for whole numbers. -/
def pointedChars (x : Binary64) : List Char :=
  let s := plainChars x
  if x.isFinite && !s.contains '.' then s ++ ['.', '0'] else s

/-- The text of a number in generated code: a whole number with all its digits and one place, any
other number as in a sentence. -/
def codeChars (x : Binary64) : List Char :=
  match x.whole? with
  | some n => signText x.isNegative ++ Nat.toDigits 10 n ++ ['.', '0']
  | none => plainChars x

namespace Binary64

def documentText (x : Binary64) : String := String.ofList (documentChars x)

def plainText (x : Binary64) : String := String.ofList (plainChars x)

def pointedText (x : Binary64) : String := String.ofList (pointedChars x)

def codeText (x : Binary64) : String := String.ofList (codeChars x)

end Binary64

end TableClasses.Decimal
