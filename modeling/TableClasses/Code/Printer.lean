import TableClasses.Code.Syntax

/-!
# Source text of class declarations

The text of a PHP file. Members are indented by a tab and separated by a blank line. A method with
a promoted parameter lists its parameters on lines of their own. A body line without text becomes an
empty line.
-/

namespace TableClasses.Code

open TableClasses.Text

/-- A text in front of an optional one, or nothing. -/
def withOption {α : Type} (before : String) (text : α → String) : Option α → String
  | some a => before ++ text a
  | none => ""

namespace Parameter

def text (p : Parameter) : String :=
  (match p.promoted with | some v => v.text ++ " " | none => "")
    ++ (match p.type with | some t => t.text ++ " " | none => "")
    ++ "$" ++ p.name
    ++ withOption " = " Literal.text p.default

end Parameter

def Property.text (p : Property) : String :=
  "\t" ++ p.visibility.text ++ withOption " " TypeRef.text p.type ++ " $" ++ p.name
    ++ withOption " = " Literal.text p.value ++ ";\n"

namespace Method

/-- Whether a parameter is promoted to a property. -/
def promotes (m : Method) : Bool := m.params.any (·.promoted.isSome)

def commentText (m : Method) : String :=
  if m.comment.isEmpty then ""
  else
    "\t/**\n"
      ++ String.join (m.comment.map fun l => if l = "" then "\t *\n" else "\t * " ++ l ++ "\n")
      ++ "\t */\n"

def paramsText (m : Method) : String :=
  if m.promotes then
    "\n" ++ String.join (m.params.map fun p => "\t\t" ++ p.text ++ ",\n") ++ "\t"
  else ", ".intercalate (m.params.map Parameter.text)

/-- A line of the body with its indentation. -/
def lineText (line : String) : String :=
  if isAllBlank line then "\n" else "\t\t" ++ line ++ "\n"

def text (m : Method) : String :=
  m.commentText ++ "\t" ++ m.visibility.text ++ (if m.isStatic then " static" else "")
    ++ " function " ++ m.name ++ "(" ++ m.paramsText ++ ")"
    ++ withOption ": " TypeRef.text m.returns
    ++ (if m.promotes then " \x7b\n" else "\n\t\x7b\n")
    ++ String.join (m.body.map lineText) ++ "\t\x7d\n"

end Method

namespace ClassDecl

def members (c : ClassDecl) : List String :=
  c.properties.map Property.text ++ c.methods.map Method.text

def text (c : ClassDecl) : String :=
  "class " ++ c.name ++ withOption " extends " id c.parent
    ++ (if c.interfaces.isEmpty then "" else " implements " ++ ", ".intercalate c.interfaces)
    ++ "\n\x7b\n" ++ "\n".intercalate c.members ++ "\x7d\n"

end ClassDecl

namespace File

def importsText (f : File) : String :=
  if f.imports.uses.isEmpty then ""
  else String.join (f.imports.uses.map fun u => "use " ++ u ++ ";\n") ++ "\n"

def text (f : File) : String :=
  "<?php\n\n" ++ (if f.strictTypes then "declare(strict_types=1);\n\n" else "")
    ++ (if f.imports.name = "" then "" else "namespace " ++ f.imports.name ++ ";\n\n")
    ++ f.importsText ++ f.declared.text

end File

end TableClasses.Code
