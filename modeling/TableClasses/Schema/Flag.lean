import TableClasses.Json.Value
import TableClasses.Text.Case

/-!
# Flags

A flag is true if it is the value true, a number other than zero, or one of the texts `1`, `true`,
`on` and `yes` in any case of ASCII letters and with blanks around it. Anything else is false.
-/

namespace TableClasses.Schema

open TableClasses.Text

def trueTexts : List String := ["1", "true", "on", "yes"]

def isTrueText (s : String) : Bool := trueTexts.contains (asciiLower (trimBlanks s))

def isTrue : Json → Bool
  | .bool b => b
  | .number n => !n.isZero
  | .string s => isTrueText s
  | _ => false

end TableClasses.Schema
