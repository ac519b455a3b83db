import TableClasses.Code.Name

/-!
# Imports of a file

A file has a namespace and imports classes from other namespaces. `use` finds the reference by
which code of the file names a class: its short name if it is imported or lives in the namespace,
and otherwise the full name behind a backslash. A short name is given away once, ignoring the case
of ASCII letters. `resolve` is the rule by which PHP reads a reference back.
-/

namespace TableClasses.Code

open TableClasses.Text

/-- The namespace of a file, the classes it imports in ascending order, and the short names that are
given away, in small letters. -/
structure Imports where
  name : String
  uses : List String := []
  taken : List String := []
  deriving DecidableEq, Repr

namespace Imports

/-- A namespace without imports. -/
def ofName (name : String) : Imports := { name := trimBackslashes name }

/-- Puts a name at its place in an ascending list. -/
def insertName (name : String) : List String → List String
  | [] => [name]
  | n :: rest => if name < n then name :: n :: rest else n :: insertName name rest

theorem insertName_perm (name : String) (l : List String) :
    (insertName name l).Perm (name :: l) := by
  induction l with
  | nil => exact .refl _
  | cons n rest ih =>
    unfold insertName
    split
    · exact .refl _
    · exact (ih.cons n).trans (.swap name n rest)

theorem mem_insertName {name n : String} {l : List String} :
    n ∈ insertName name l ↔ n = name ∨ n ∈ l := by
  rw [(insertName_perm name l).mem_iff, List.mem_cons]

/-- Gives a short name away to a class that the file declares. -/
def reserve (i : Imports) (short : String) : Imports :=
  { i with taken := asciiLower short :: i.taken }

@[simp] theorem reserve_name (i : Imports) (short : String) : (i.reserve short).name = i.name := rfl

@[simp] theorem reserve_uses (i : Imports) (short : String) : (i.reserve short).uses = i.uses := rfl

@[simp] theorem reserve_taken (i : Imports) (short : String) :
    (i.reserve short).taken = asciiLower short :: i.taken := rfl

/-- The full name behind a backslash. -/
def absolute (name : String) : String := "\\" ++ name

/-- The reference to a class, and the imports afterwards. -/
def use (i : Imports) (className : String) : String × Imports :=
  let name := trimLeadingBackslashes className
  match splitLast? isBackslash name.toList with
  | none => (absolute name, i)
  | some (qualifier, last) =>
    let short := String.ofList last
    if name ∈ i.uses then (short, i)
    else if String.ofList qualifier = i.name then
      if i.uses.any fun u => asciiLower (shortName u) == asciiLower short then (absolute name, i)
      else (short, i.reserve short)
    else if asciiLower short ∈ i.taken then (absolute name, i)
    else (short, { i.reserve short with uses := insertName name i.uses })

/-- The class that a reference names. -/
def resolve (i : Imports) (reference : String) : String :=
  match reference.toList with
  | '\\' :: name => String.ofList name
  | _ =>
    match i.uses.find? fun u => asciiLower (shortName u) == asciiLower reference with
    | some u => u
    | none => if i.name = "" then reference else i.name ++ "\\" ++ reference

end Imports

end TableClasses.Code
