import TableClasses.Naming.Words
import TableClasses.Text.Case

/-!
# Spelling styles of identifiers

A column or table name is respelt from its words: `camelCase` writes the first word small and
capitalizes the others, `PascalCase` capitalizes all, `snake_case` writes all small and joins them
by underscores. `KeyStyle` names the style of the keys that a generated class reads.
-/

namespace TableClasses.Naming

open TableClasses.Text

/-- The small form of a word; a sigma at its end takes the final form. -/
def lowerWord : List Char → List Char
  | [] => []
  | ['Σ'] => ['ς']
  | c :: rest => lowerChar c ++ lowerWord rest

/-- The word with a capital first letter and the rest small. -/
def capitalize : List Char → List Char
  | [] => []
  | c :: rest => upperChar c ++ lowerWord rest

def pascalChars (s : List Char) : List Char := (words s).flatMap capitalize

def camelChars (s : List Char) : List Char :=
  match words s with
  | [] => []
  | w :: ws => lowerWord w ++ ws.flatMap capitalize

def snakeChars (s : List Char) : List Char := ['_'].intercalate ((words s).map lowerWord)

/-- `order_items` becomes `OrderItems`. -/
def pascal (s : String) : String := onChars pascalChars s

/-- `created_at` becomes `createdAt`. -/
def camel (s : String) : String := onChars camelChars s

/-- `createdAt` becomes `created_at`. -/
def snake (s : String) : String := onChars snakeChars s

/-- How the keys of an input array are derived from the column names. -/
inductive KeyStyle where
  | raw
  | camelCase
  | pascalCase
  | snakeCase
  deriving DecidableEq, Repr, Inhabited

namespace KeyStyle

def apply : KeyStyle → String → String
  | raw, column => column
  | camelCase, column => camel column
  | pascalCase, column => pascal column
  | snakeCase, column => snake column

/-- The name of the style in settings. -/
def name : KeyStyle → String
  | raw => "raw"
  | camelCase => "camelCase"
  | pascalCase => "PascalCase"
  | snakeCase => "snake_case"

def all : List KeyStyle := [raw, camelCase, pascalCase, snakeCase]

/-- The style with exactly this name. -/
def ofName? (s : String) : Option KeyStyle := all.find? (·.name == s)

end KeyStyle

end TableClasses.Naming
