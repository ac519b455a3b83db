import TableClasses.Entries
import TableClasses.Text.Blank
import TableClasses.Code.Syntax

/-!
# Catalog of types

The classes and interfaces that are known, their parents, and the methods each declares itself. A
type is found under its normalized name: without blanks around it and without leading backslashes.
`lineage` lists a type and its ancestors, the nearest first; it ends at an unknown parent and is cut
where a type would come a second time. `findMethod?` takes the nearest declaration.
-/

namespace TableClasses.ValueObject

open TableClasses.Text TableClasses.Code

/-- How a method is called: on the class with the value as argument, or on the value. -/
inductive CallKind where
  | onClass
  | onValue
  deriving DecidableEq, Repr

namespace CallKind

def name : CallKind → String
  | onClass => "static"
  | onValue => "instance"

/-- The kind with this name. -/
def ofName? (s : String) : Option CallKind := [onClass, onValue].find? (·.name == s)

end CallKind

structure MethodDecl where
  name : String
  kind : CallKind := .onValue
  visibility : Visibility := .pub
  /-- The number of parameters without a default. -/
  requiredParams : Nat := 0
  deriving DecidableEq, Repr

/-- A class or interface. -/
structure TypeDecl where
  name : String
  parent : Option String := none
  methods : List MethodDecl := []
  deriving DecidableEq, Repr

/-- A type name without blanks around it and without leading backslashes. -/
def normalizeName (name : String) : String :=
  onChars (fun s => trimStart isBackslash (trim isBlank s)) name

def TypeDecl.normalize (d : TypeDecl) : TypeDecl :=
  { d with name := normalizeName d.name, parent := d.parent.map normalizeName }

/-- Types by their normalized names. -/
abbrev Catalog := Entries TypeDecl

namespace Catalog

/-- Adds a declaration or replaces the one of that name. -/
def register (c : Catalog) (d : TypeDecl) : Catalog := c.put d.normalize.name d.normalize

def registerAll (c : Catalog) (ds : List TypeDecl) : Catalog := ds.foldl register c

def contains (c : Catalog) (name : String) : Bool := c.has (normalizeName name)

/-- The declared parent of a type. -/
def parent? (c : Catalog) (name : String) : Option String := (c.get? name).bind (·.parent)

/-- The line of ancestors from `name` on that avoids `seen`. -/
def climb (c : Catalog) : Nat → List String → String → List String
  | 0, _, _ => []
  | fuel + 1, seen, name =>
    if name ∈ seen then []
    else
      name ::
        match c.parent? name with
        | some p => climb c fuel (name :: seen) p
        | none => []

/-- The type and its ancestors, nearest first. No line is longer than the catalog and one more. -/
def lineage (c : Catalog) (name : String) : List String :=
  climb c (c.length + 2) [] (normalizeName name)

/-- The method as the type itself or its nearest ancestor declares it. -/
def findMethod? (c : Catalog) (type method : String) : Option MethodDecl :=
  (c.lineage type).findSome? fun t =>
    (c.get? t).bind fun d => d.methods.find? (·.name == method)

end Catalog

/-! ## Known libraries -/

def uuidInterface : String := "Ramsey\\Uuid\\UuidInterface"

def uuidClass : String := "Ramsey\\Uuid\\Uuid"

def enumBase : String := "Consistence\\Enum\\Enum"

/-- The types of the identifier and enumeration libraries. -/
def builtinTypes : Catalog :=
  Catalog.registerAll []
    [{ name := uuidInterface
       methods := [{ name := "toString" }] },
     { name := uuidClass
       methods := [{ name := "fromString", kind := .onClass, requiredParams := 1 },
         { name := "toString" }] },
     { name := enumBase
       methods := [{ name := "get", kind := .onClass, requiredParams := 1 },
         { name := "getValue" }] }]

end TableClasses.ValueObject
