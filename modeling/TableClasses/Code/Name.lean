import TableClasses.Text.Case
import TableClasses.Text.Split

/-!
# Qualified names

A class name is a list of segments between backslashes. `shortName` is the last of them. `joinNames`
joins segments and leaves out empty ones.
-/

namespace TableClasses.Code

open TableClasses.Text

/-- What follows the last backslash of a name; a name without one is all of it. -/
def lastSegment (s : List Char) : List Char :=
  match splitLast? isBackslash s with
  | some (_, r) => r
  | none => s

/-- The last segment of a class name. -/
def shortName (name : String) : String :=
  onChars (fun s => lastSegment (trimStart isBackslash s)) name

/-- Joins segments by backslashes. Backslashes at the ends of a segment do not count, and segments
without anything else are left out. -/
def joinNames (segments : List String) : String :=
  "\\".intercalate ((segments.map trimBackslashes).filter (· != ""))

end TableClasses.Code
