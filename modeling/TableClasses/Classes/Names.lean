import TableClasses.Naming.Style
import TableClasses.Code.Name

/-!
# Generated classes and their names

Three classes are generated for a table: one for a row, one for a collection of rows, and one that
stores them. Each kind has a namespace of its own under that of the table, and a class named after
the table and the kind.
-/

namespace TableClasses.Classes

open TableClasses.Text TableClasses.Naming TableClasses.Code

/-- The kinds of generated classes. -/
inductive Kind where
  | collection
  | data
  | storage
  deriving DecidableEq, Repr

namespace Kind

/-- The name by which a kind is requested. -/
def name : Kind → String
  | collection => "collection"
  | data => "data"
  | storage => "llstorage"

/-- The segment of the namespace. -/
def segment : Kind → String
  | collection => "Collection"
  | data => "Data"
  | storage => "Storage"

/-- What follows the table in the name of the class. -/
def suffix : Kind → String
  | collection => "Collection"
  | data => "Data"
  | storage => "DatabaseLowLevelStorage"

def all : List Kind := [collection, data, storage]

/-- The kind that a text requests, without regard to blanks around it and to the case of ASCII
letters. -/
def ofName? (s : String) : Option Kind := all.find? (·.name == asciiLower (trimBlanks s))

/-- The complaint about a text that requests no kind. -/
def unknownMessage (s : String) : String :=
  "Generator " ++ asciiLower (trimBlanks s) ++ " is not allowed"

/-- The kinds that texts request, each once, in the order of the first request; with them the texts
that request none. -/
def request (names : List String) : List Kind × List String :=
  names.foldl
    (fun (kinds, unknown) n =>
      match ofName? n with
      | some k => (if k ∈ kinds then kinds else kinds ++ [k], unknown)
      | none => (kinds, unknown ++ [n]))
    ([], [])

end Kind

/-- The names that a table gives to its classes. -/
structure Names where
  /-- The namespace of the table. -/
  root : String
  /-- The table as a class name. -/
  base : String
  deriving DecidableEq, Repr

namespace Names

def ofTable (baseNamespace table : String) : Names :=
  { root := joinNames [baseNamespace, pascal table], base := pascal table }

def namespaceOf (n : Names) (k : Kind) : String := joinNames [n.root, k.segment]

def className (n : Names) (k : Kind) : String := n.base ++ k.suffix

/-- The full name of a class. -/
def fullName (n : Names) (k : Kind) : String := joinNames [n.namespaceOf k, n.className k]

end Names

end TableClasses.Classes
