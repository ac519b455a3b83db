import TableClasses.Code.Type
import TableClasses.Code.Literal
import TableClasses.Code.Imports

/-!
# Class declarations

The tree of a PHP source file: one namespace with its imports and one class with its properties and
methods. A method body is a list of lines relative to the method.
-/

namespace TableClasses.Code

open TableClasses.Text

/-- Who may use a member. -/
inductive Visibility where
  | pub
  | prot
  | priv
  deriving DecidableEq, Repr

def Visibility.text : Visibility → String
  | .pub => "public"
  | .prot => "protected"
  | .priv => "private"

/-- The visibility with this name. -/
def Visibility.ofText? (s : String) : Option Visibility :=
  [Visibility.pub, .prot, .priv].find? (·.text == s)

/-- A parameter; one with a visibility is also a property of the class. -/
structure Parameter where
  name : String
  type : Option TypeRef := none
  default : Option Literal := none
  promoted : Option Visibility := none
  deriving DecidableEq, Repr

structure Property where
  name : String
  visibility : Visibility := .pub
  type : Option TypeRef := none
  value : Option Literal := none
  deriving DecidableEq, Repr

structure Method where
  name : String
  visibility : Visibility := .pub
  isStatic : Bool := false
  params : List Parameter := []
  returns : Option TypeRef := none
  comment : List String := []
  body : List String := []
  deriving DecidableEq, Repr

structure ClassDecl where
  name : String
  parent : Option String := none
  interfaces : List String := []
  properties : List Property := []
  methods : List Method := []
  deriving DecidableEq, Repr

/-- The first method with this name. -/
def ClassDecl.method? (c : ClassDecl) (name : String) : Option Method :=
  c.methods.find? (·.name == name)

/-- A source file with one namespace and one class. -/
structure File where
  strictTypes : Bool := true
  imports : Imports
  declared : ClassDecl
  deriving DecidableEq, Repr

/-- The imports of a file that declares a class: its name is given away. -/
def importsFor (namespaceName className : String) : Imports :=
  (Imports.ofName namespaceName).reserve className

/-- The full name of the declared class. -/
def File.className (f : File) : String :=
  if f.imports.name = "" then f.declared.name else f.imports.name ++ "\\" ++ f.declared.name

end TableClasses.Code
