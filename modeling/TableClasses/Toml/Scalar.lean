import TableClasses.Toml.Value
import TableClasses.Json.Reader

/-!
# Scalars of TOML documents

Booleans, numbers, dates and times are one unbroken word each; `scalarOf?` gives its value. Strings
stand between quotes: basic ones have escapes, literal ones have none, and both come on one line or,
between three quotes, on several.
-/

namespace TableClasses.Toml

open Decimal

/-! ## Words -/

/-- The digits of a numeral without their underscores, each of which stands between two digits. -/
def joinDigits? (isDigit : Char → Bool) : List Char → Option (List Char)
  | [] => none
  | [c] => if isDigit c then some [c] else none
  | c :: '_' :: rest => if isDigit c then (joinDigits? isDigit rest).map (c :: ·) else none
  | c :: rest => if isDigit c then (joinDigits? isDigit rest).map (c :: ·) else none

/-- The digits of a decimal numeral, which has no leading zero. -/
def decimalDigits? (s : List Char) : Option (List Char) :=
  (joinDigits? Char.isDigit s).filter fun ds => ds.length == 1 || ds.head? != some '0'

def hexValue (c : Char) : Nat := (Json.hexValue? c).getD 0

/-- The number that digits spell in a base. -/
def baseValue (base : Nat) (ds : List Char) : Nat :=
  ds.foldl (fun n c => base * n + hexValue c) 0

def isHexDigit (c : Char) : Bool := (Json.hexValue? c).isSome

def isOctalDigit (c : Char) : Bool := '0' ≤ c && c ≤ '7'

def isBinaryDigit (c : Char) : Bool := c == '0' || c == '1'

/-- A whole number in base ten with an optional sign, or in base sixteen, eight or two. -/
def integerOf? (s : List Char) : Option Int :=
  match s with
  | '0' :: 'x' :: t => (joinDigits? isHexDigit t).map fun ds => (baseValue 16 ds : Int)
  | '0' :: 'o' :: t => (joinDigits? isOctalDigit t).map fun ds => (baseValue 8 ds : Int)
  | '0' :: 'b' :: t => (joinDigits? isBinaryDigit t).map fun ds => (baseValue 2 ds : Int)
  | s =>
    let (negative, t) := splitSign s
    (decimalDigits? t).map fun ds =>
      if negative then -(digitsValue 0 ds : Int) else digitsValue 0 ds

/-- The part of a float before its exponent: whole digits and perhaps a fraction. -/
def significandOf? (s : List Char) : Option (List Char × List Char) :=
  let whole := s.takeWhile (· != '.')
  match s.dropWhile (· != '.') with
  | [] => (decimalDigits? whole).map (·, [])
  | _ :: fraction => do
    let w ← decimalDigits? whole
    let f ← joinDigits? Char.isDigit fraction
    return (w, f)

def exponentOf? (s : List Char) : Option Int :=
  let (negative, t) := splitSign s
  (joinDigits? Char.isDigit t).map fun ds =>
    if negative then -(digitsValue 0 ds : Int) else digitsValue 0 ds

/-- The value of a numeral, of which the format has the nearest number. -/
def ofNearest : Binary64 → Toml
  | .infinite negative => .overflow negative
  | x => .float x

/-- A number with a fraction or an exponent, or one of the words for infinity and for no number. -/
def floatOf? (s : List Char) : Option Toml :=
  let (negative, t) := splitSign s
  if t = ['i', 'n', 'f'] then some (.float (.infinite negative))
  else if t = ['n', 'a', 'n'] then some (.float .nan)
  else
    let isMark (c : Char) := c == 'e' || c == 'E'
    let mantissa := t.takeWhile (!isMark ·)
    let value := match t.dropWhile (!isMark ·) with
      | [] => do
        let (w, f) ← significandOf? mantissa
        guard (!f.isEmpty)
        return ofDigits negative (w ++ f) (-(f.length : Int))
      | _ :: e => do
        let (w, f) ← significandOf? mantissa
        let exponent ← exponentOf? e
        return ofDigits negative (w ++ f) (exponent - f.length)
    value.map ofNearest

/-- The value of a word. -/
def scalarOf? (s : List Char) : Option Toml :=
  if s = ['t', 'r', 'u', 'e'] then some (.bool true)
  else if s = ['f', 'a', 'l', 's', 'e'] then some (.bool false)
  else
    match integerOf? s with
    | some i => some (.integer i)
    | none =>
      match floatOf? s with
      | some v => some v
      | none => (Datetime.read? s).map .datetime

/-- The characters of which words consist. -/
def isWordChar (c : Char) : Bool :=
  c.isAlphanum || c == '+' || c == '-' || c == '_' || c == '.' || c == ':'

/-- Reads a word. A space after a date continues the word when a digit follows it. -/
def readScalar (s : List Char) : Option (Toml × List Char) :=
  let word := s.takeWhile isWordChar
  let rest := s.dropWhile isWordChar
  match readDate word, rest with
  | some (_, []), ' ' :: c :: t =>
    if c.isDigit then
      let more := (c :: t).takeWhile isWordChar
      (scalarOf? (word ++ ' ' :: more)).map (·, (c :: t).dropWhile isWordChar)
    else (scalarOf? word).map (·, rest)
  | _, _ => (scalarOf? word).map (·, rest)

/-! ## Strings -/

/-- Whether a character may stand in a comment or a string on one line. -/
def isPlain (c : Char) : Bool := c == '\t' || (decide (0x20 ≤ c.toNat) && c.toNat != 0x7F)

/-- The character with this code point, which must not be a surrogate. -/
def charOf? (n : Nat) : Option Char := if h : n.isValidChar then some (Char.ofNatAux n h) else none

/-- Reads a code point of `n` hexadecimal digits. -/
def readCodePoint (n : Nat) (s : List Char) : Option (Char × List Char) := do
  let ds := s.take n
  guard (ds.length == n)
  let c ← charOf? (← Json.hexOf? ds)
  return (c, s.drop n)

/-- Reads what follows the backslash of an escape. -/
def readEscape : List Char → Option (Char × List Char)
  | [] => none
  | c :: s =>
    match c with
    | 'b' => some (Char.ofNat 8, s)
    | 't' => some ('\t', s)
    | 'n' => some ('\n', s)
    | 'f' => some (Char.ofNat 12, s)
    | 'r' => some ('\r', s)
    | 'e' => some (Char.ofNat 27, s)
    | '"' => some ('"', s)
    | '\\' => some ('\\', s)
    | 'x' => readCodePoint 2 s
    | 'u' => readCodePoint 4 s
    | 'U' => readCodePoint 8 s
    | _ => none

/-- Reads a basic string on one line up to its quote; `fuel` bounds its characters. -/
def readBasic : Nat → List Char → Option (List Char × List Char)
  | 0, _ => none
  | _ + 1, [] => none
  | fuel + 1, c :: s =>
    if c = '"' then some ([], s)
    else if c = '\\' then do
      let (d, s) ← readEscape s
      Json.prepend (some d) (readBasic fuel s)
    else if isPlain c then Json.prepend (some c) (readBasic fuel s)
    else none

/-- Reads a literal string on one line up to its quote. -/
def readLiteral : List Char → Option (List Char × List Char)
  | [] => none
  | c :: s =>
    if c = '\'' then some ([], s)
    else if isPlain c then Json.prepend (some c) (readLiteral s)
    else none

/-- The line ending at the front of a text, if there is one, and what follows it. -/
def lineEnd? : List Char → Option (List Char × List Char)
  | '\n' :: s => some (['\n'], s)
  | '\r' :: '\n' :: s => some (['\r', '\n'], s)
  | _ => none

/-- Drops the line ending that may follow the opening quotes. -/
def dropFirstLineEnd (s : List Char) : List Char :=
  match lineEnd? s with
  | some (_, t) => t
  | none => s

/-- Drops the blanks and line endings at the front of a text. -/
def skipBlankLines : List Char → List Char
  | ' ' :: s => skipBlankLines s
  | '\t' :: s => skipBlankLines s
  | '\n' :: s => skipBlankLines s
  | '\r' :: '\n' :: s => skipBlankLines s
  | s => s

/-- What follows a backslash at the end of a line: blanks and line endings are skipped up to the
next text. Nothing if the line does not end there. -/
def continueLine? (s : List Char) : Option (List Char) :=
  (lineEnd? (s.dropWhile fun c => c == ' ' || c == '\t')).map fun (_, t) => skipBlankLines t

/-- Reads the quotes at the front of a string on several lines. Three to five of them close it, and
those beyond three belong to the string; fewer are part of the text. -/
def closingQuotes (quote : Char) (s : List Char) : Bool × List Char × List Char :=
  let n := (s.takeWhile (· == quote)).length
  if n < 3 then (false, List.replicate n quote, s.drop n)
  else
    let m := min n 5
    (true, List.replicate (m - 3) quote, s.drop m)

/-- Puts a text in front of what was read. -/
def prependAll (cs : List Char) (r : Option (List Char × List Char)) :
    Option (List Char × List Char) :=
  r.map fun (s, rest) => (cs ++ s, rest)

/-- Reads a string on several lines up to its quotes. Only a basic one has escapes. -/
def readMultiline (basic : Bool) (quote : Char) : Nat → List Char → Option (List Char × List Char)
  | 0, _ => none
  | _ + 1, [] => none
  | fuel + 1, c :: s =>
    if c = quote then
      match closingQuotes quote (c :: s) with
      | (true, cs, rest) => some (cs, rest)
      | (false, cs, rest) => prependAll cs (readMultiline basic quote fuel rest)
    else if basic = true ∧ c = '\\' then
      match continueLine? s with
      | some rest => readMultiline basic quote fuel rest
      | none => do
        let (d, rest) ← readEscape s
        prependAll [d] (readMultiline basic quote fuel rest)
    else
      match lineEnd? (c :: s) with
      | some (cs, rest) => prependAll cs (readMultiline basic quote fuel rest)
      | none => if isPlain c then prependAll [c] (readMultiline basic quote fuel s) else none

/-- Reads a string of one of the four kinds; nothing if the text begins with no quote. -/
def readQuoted (s : List Char) : Option (List Char × List Char) :=
  match s with
  | '"' :: '"' :: '"' :: t => readMultiline true '"' (t.length + 1) (dropFirstLineEnd t)
  | '\'' :: '\'' :: '\'' :: t => readMultiline false '\'' (t.length + 1) (dropFirstLineEnd t)
  | '"' :: t => readBasic (t.length + 1) t
  | '\'' :: t => readLiteral t
  | _ => none

end TableClasses.Toml
