import TableClasses.Text.Split

/-!
# Type declarations

A type is written by its name. A nullable type gets a question mark, a union of types gets the
member `null`, and a type that includes null already is left as it is.
-/

namespace TableClasses.Code

open TableClasses.Text

/-- A type in a signature. -/
structure TypeRef where
  name : String
  nullable : Bool := false
  deriving DecidableEq, Repr

namespace TypeRef

/-- The members of a union; a single type is its only member. -/
def members (t : TypeRef) : List String := splitAt '|' t.name

/-- Whether the name by itself includes null. -/
def includesNull (t : TypeRef) : Bool := t.name == "mixed" || t.members.contains "null"

def text (t : TypeRef) : String :=
  if !t.nullable || t.includesNull then t.name
  else if t.members.length = 1 then "?" ++ t.name
  else t.name ++ "|null"

end TypeRef

end TableClasses.Code
