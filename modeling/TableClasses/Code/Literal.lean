import TableClasses.Decimal.Layout

/-!
# Literals

Constant expressions of PHP, the language of the generated classes. A string stands between single
quotes, where a backslash and a quote get a backslash before them and every other character stands
for itself. `scanQuoted` reads such a string as the language does: a backslash escapes a backslash
or a quote and is otherwise a character like any other, and the first quote that is not escaped ends
the string.
-/

namespace TableClasses.Code

open TableClasses.Decimal

/-! ## Quoted strings -/

def escape : List Char → List Char
  | [] => []
  | c :: rest => if c = '\\' ∨ c = '\'' then '\\' :: c :: escape rest else c :: escape rest

/-- The string between its quotes. -/
def quote (s : List Char) : List Char := '\'' :: escape s ++ ['\'']

/-- Reads the inside of a string up to its closing quote: the string, and what follows it. -/
def scanInside : List Char → Option (List Char × List Char)
  | [] => none
  | '\'' :: rest => some ([], rest)
  | '\\' :: c :: rest =>
    if c = '\\' ∨ c = '\'' then (scanInside rest).map fun (s, t) => (c :: s, t)
    else (scanInside (c :: rest)).map fun (s, t) => ('\\' :: s, t)
  | c :: rest => (scanInside rest).map fun (s, t) => (c :: s, t)

/-- Reads a quoted string at the front of a text. -/
def scanQuoted : List Char → Option (List Char × List Char)
  | '\'' :: rest => scanInside rest
  | _ => none

/-! ## Literals -/

/-- A constant expression; `code` is written as it is. -/
inductive Literal where
  | null
  | bool (value : Bool)
  | int (value : Int)
  | float (value : Binary64)
  | string (value : String)
  | code (text : String)
  deriving DecidableEq, Repr

/-- A string as a literal. -/
def quoteString (s : String) : String := String.ofList (quote s.toList)

def Literal.text : Literal → String
  | null => "null"
  | bool true => "true"
  | bool false => "false"
  | int i => toString i
  | float x => x.codeText
  | string s => quoteString s
  | code t => t

end TableClasses.Code
