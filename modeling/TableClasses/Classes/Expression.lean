import TableClasses.Code.Literal
import TableClasses.ValueObject.Mapping

/-!
# Expressions of data classes

The code that a data class runs on a value: reading it from an array or from the object, and
converting it between its raw form and its form in the object. Each conversion is guarded where the
value may be null.
-/

namespace TableClasses.Classes

open TableClasses.Code TableClasses.ValueObject

inductive Expression where
  /-- The entry of an array variable. -/
  | entry (array key : String)
  /-- A property of the object. -/
  | field (name : String)
  | cast (type : String) (value : Expression)
  | decodeJson (value : Expression)
  | encodeJson (value : Expression)
  | makeDate (value : Expression)
  | formatDate (value : Expression) (format : String)
  /-- A method of a value object, called on the class under this reference or on the value. -/
  | call (method : MethodCall) (classRef : String) (value : Expression)
  /-- The value if the guard is set, and null otherwise. -/
  | ifSet (guard value : Expression)
  /-- Null if the guard is null, and the value otherwise. -/
  | unlessNull (guard value : Expression)
  deriving DecidableEq, Repr

def Expression.text : Expression → String
  | entry array key => "$" ++ array ++ "[" ++ quoteString key ++ "]"
  | field name => "$this->" ++ name
  | cast type e => type ++ " " ++ e.text
  | decodeJson e => "json_decode(" ++ e.text ++ ", true)"
  | encodeJson e => "json_encode(" ++ e.text ++ ")"
  | makeDate e => "new \\DateTimeImmutable(" ++ e.text ++ ")"
  | formatDate e format => e.text ++ "->format(" ++ quoteString format ++ ")"
  | call method classRef e => Mapping.callText method classRef e.text
  | ifSet guard e => "isset(" ++ guard.text ++ ") ? " ++ e.text ++ " : null"
  | unlessNull guard e => guard.text ++ " === null ? null : " ++ e.text

namespace Expression

@[simp] theorem text_entry (array key : String) :
    (entry array key).text = "$" ++ array ++ "[" ++ quoteString key ++ "]" := rfl

@[simp] theorem text_field (name : String) : (field name).text = "$this->" ++ name := rfl

@[simp] theorem text_cast (type : String) (e : Expression) :
    (cast type e).text = type ++ " " ++ e.text := rfl

@[simp] theorem text_decodeJson (e : Expression) :
    (decodeJson e).text = "json_decode(" ++ e.text ++ ", true)" := rfl

@[simp] theorem text_encodeJson (e : Expression) :
    (encodeJson e).text = "json_encode(" ++ e.text ++ ")" := rfl

@[simp] theorem text_makeDate (e : Expression) :
    (makeDate e).text = "new \\DateTimeImmutable(" ++ e.text ++ ")" := rfl

@[simp] theorem text_formatDate (e : Expression) (format : String) :
    (formatDate e format).text = e.text ++ "->format(" ++ quoteString format ++ ")" := rfl

@[simp] theorem text_call (method : MethodCall) (classRef : String) (e : Expression) :
    (call method classRef e).text = Mapping.callText method classRef e.text := rfl

@[simp] theorem text_ifSet (guard e : Expression) :
    (ifSet guard e).text = "isset(" ++ guard.text ++ ") ? " ++ e.text ++ " : null" := rfl

@[simp] theorem text_unlessNull (guard e : Expression) :
    (unlessNull guard e).text = guard.text ++ " === null ? null : " ++ e.text := rfl

end Expression

end TableClasses.Classes
