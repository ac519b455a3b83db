import TableClasses.Proofs.Phrases

/-!
# What a data class does

`Platform` is what a data class runs on: values with a null among them, and the functions by which
the class converts them. `Expression.eval` gives the value of an expression; there is none if a
variable has no value or if a conversion is applied to null. With it the class of a file says what
`fromRow` makes of a row and what `toDatabaseArray` makes of an object: the expressions are those in
the bodies of these methods, and the constructor and the setters are methods of the class.

`Platform.Lawful` is what the conversions of a column promise: a cast leaves the values of its
category as they are, and every other conversion gives a value that the opposite one turns back.
-/

namespace TableClasses.Classes

open TableClasses.Text TableClasses.Code TableClasses.ValueObject

/-- Values and the functions on them that a data class calls. -/
structure Platform (V : Type) where
  null : V
  cast : String → V → V
  decodeJson : V → V
  encodeJson : V → V
  makeDate : V → V
  formatDate : String → V → V
  callOnClass : (className method : String) → V → V
  callOnValue : (method : String) → V → V

/-- The raw values other than null of each category and of each mapping. -/
structure Kinds (V : Type) where
  scalar : Scalar → V → Prop
  object : Mapping → V → Prop

/-- What the code of a method can read. -/
structure Scope (V : Type) where
  arrays : Entries (Entries V) := []
  this : Entries V := []

/-- The scope of `fromRow`. -/
def Scope.ofRow {V : Type} (row : Entries V) : Scope V := { arrays := [("row", row)] }

/-- The scope of `toDatabaseArray`. -/
def Scope.ofObject {V : Type} (object : Entries V) : Scope V := { this := object }

section
variable {V : Type} (p : Platform V)

/-! ## Laws -/

/-- A call of a method of a class. -/
def Platform.invoke (call : MethodCall) (className : String) (v : V) : V :=
  match call.kind with
  | .onClass => p.callOnClass className call.method v
  | .onValue => p.callOnValue call.method v

/-- What a value object is made of a raw value by. -/
def Platform.wrap (m : Mapping) : V → V :=
  p.invoke m.fromRaw (trimLeadingBackslashes m.className)

def Platform.unwrap (m : Mapping) : V → V :=
  p.invoke m.toRaw (trimLeadingBackslashes m.className)

/-- The raw values other than null of a column. -/
def Kinds.of (k : Kinds V) (c : Column) : V → Prop :=
  match c.valueObject with
  | some m => k.object m
  | none => k.scalar c.scalar

structure Platform.Lawful (k : Kinds V) (format : String) : Prop where
  scalar_ne_null : ∀ {s v}, k.scalar s v → v ≠ p.null
  object_ne_null : ∀ {m v}, k.object m v → v ≠ p.null
  cast_int : ∀ {v}, k.scalar .int v → p.cast "(int)" v = v
  cast_float : ∀ {v}, k.scalar .float v → p.cast "(float)" v = v
  cast_bool : ∀ {v}, k.scalar .bool v → p.cast "(bool)" v = v
  cast_string : ∀ {v}, k.scalar .string v → p.cast "(string)" v = v
  decodeJson_ne_null : ∀ {v}, k.scalar .json v → p.decodeJson v ≠ p.null
  encodeJson_decodeJson : ∀ {v}, k.scalar .json v → p.encodeJson (p.decodeJson v) = v
  makeDate_ne_null : ∀ {v}, k.scalar .datetime v → p.makeDate v ≠ p.null
  formatDate_makeDate : ∀ {v}, k.scalar .datetime v → p.formatDate format (p.makeDate v) = v
  wrap_ne_null : ∀ {m v}, k.object m v → p.wrap m v ≠ p.null
  unwrap_wrap : ∀ {m v}, k.object m v → p.unwrap m (p.wrap m v) = v

/-- A column may hold a value. -/
def Platform.Fits (k : Kinds V) (c : Column) (v : V) : Prop :=
  k.of c v ∨ v = p.null ∧ c.nullable = true

/-- A row gives each column a value that it may hold. -/
def Platform.FitsRow (k : Kinds V) (columns : List Column) (row : Entries V) : Prop :=
  ∀ c ∈ columns, ∃ v, row.get? c.name = some v ∧ p.Fits k c v

/-! ## Expressions -/

variable [DecidableEq V]

/-- A conversion, which null must not meet. -/
def Platform.convert (f : V → V) (v : V) : Option V := if v = p.null then none else some (f v)

/-- The value of an expression in a file with these imports. -/
def Expression.eval (i : Imports) (scope : Scope V) : Expression → Option V
  | .entry array key => (scope.arrays.get? array).bind fun entries => entries.get? key
  | .field name => scope.this.get? name
  | .cast type e => (e.eval i scope).bind (p.convert (p.cast type))
  | .decodeJson e => (e.eval i scope).bind (p.convert p.decodeJson)
  | .encodeJson e => (e.eval i scope).bind (p.convert p.encodeJson)
  | .makeDate e => (e.eval i scope).bind (p.convert p.makeDate)
  | .formatDate e format => (e.eval i scope).bind (p.convert (p.formatDate format))
  | .call method classRef e =>
    (e.eval i scope).bind (p.convert (p.invoke method (i.resolve classRef)))
  | .ifSet guard e =>
    match guard.eval i scope with
    | none => some p.null
    | some g => if g = p.null then some p.null else e.eval i scope
  | .unlessNull guard e =>
    (guard.eval i scope).bind fun g => if g = p.null then some p.null else e.eval i scope

/-! ## Methods -/

/-- The object that the constructor makes. Every parameter takes an argument, the promoted ones for
the property of their name. -/
def construct (c : ClassDecl) (arguments : List V) : Option (Entries V) :=
  (c.method? "__construct").bind fun m =>
    if m.body = [] ∧ m.params.length = arguments.length then
      some <| Entries.ofList <|
        ((m.params.zip arguments).filter fun e => e.1.promoted.isSome).map fun e => (e.1.name, e.2)
    else none

/-- The property in which a method stores its only argument, if that is what it does. -/
def storesIn? (m : Method) : Option String :=
  match m.params with
  | [q] =>
    if m.isStatic = false ∧
        m.body = ["$this->" ++ q.name ++ " = $" ++ q.name ++ ";", "", "return $this;"] then
      some q.name
    else none
  | _ => none

/-- The object after a call of a setter; methods are found whatever the case of ASCII letters. -/
def callSetter (c : ClassDecl) (object : Entries V) (name : String) (v : V) : Option (Entries V) :=
  ((c.methods.find? fun m => asciiLower m.name == asciiLower name).bind storesIn?).map
    fun property => object.put property v

section
variable (layout : List String → List String) (f : File)

/-- A setter call of `fromRow`. -/
def runSetter (row object : Entries V) (call : String × Expression) : Option (Entries V) :=
  (call.2.eval p f.imports (.ofRow row)).bind (callSetter f.declared object call.1)

/-- `fromRow` gives this object for a row: the arguments go to the constructor, each to the parameter
at its place, and then the setters are called one after the other. -/
def GivesObject (row object : Entries V) : Prop :=
  ∃ arguments setters values made, RowCode layout f.declared arguments setters ∧
    arguments.mapM (Expression.eval p f.imports (.ofRow row)) = some values ∧
    construct f.declared values = some made ∧
    setters.foldlM (runSetter p f row) made = some object

/-- An entry of `toDatabaseArray`. -/
def evalEntry (object : Entries V) (e : String × Expression) : Option (String × V) :=
  (e.2.eval p f.imports (.ofObject object)).map fun v => (e.1, v)

/-- `toDatabaseArray` gives this row for an object. -/
def GivesRow (object row : Entries V) : Prop :=
  ∃ entries, DatabaseCode layout f.declared entries ∧
    (entries.mapM (evalEntry p f object)).map Entries.ofList = some row

end

end

end TableClasses.Classes
