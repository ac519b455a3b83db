import TableClasses.Classes.Default
import TableClasses.Classes.Expression

/-!
# Data classes

A data class holds one row. Read-write columns are promoted parameters of the constructor; read-only
columns are plain properties that only `fromRow` fills, through private setters. `Outline` is a data
class before it is put into words: its parameters, the expressions by which rows and arrays are
converted, and the types of its members.
-/

namespace TableClasses.Classes

open TableClasses.Code

/-- A column with the type of its member in the file at hand. -/
structure Member where
  column : Column
  type : TypeRef
  deriving DecidableEq, Repr

/-- A data class. Lists of expressions follow the order of the columns. -/
structure Outline where
  interface : String
  parameters : List (Member × Option Literal)
  /-- The arguments with which `fromArray` makes an object. -/
  arrayArguments : List Expression
  /-- The arguments with which `fromRow` makes an object. -/
  rowArguments : List Expression
  /-- The values that `fromRow` then passes to setters. -/
  rowSetters : List (String × Expression)
  /-- The entries of `toDatabaseArray`. -/
  databaseEntries : List (String × Expression)
  /-- The members that have only a getter. -/
  readWrite : List Member
  /-- The members that have a property, a setter and a getter, with the types of these. -/
  readOnly : List (Member × TypeRef × TypeRef)
  deriving DecidableEq, Repr

/-! ## Types and conversions -/

/-- The type of a column's member; the type of a value object is imported. -/
def memberType (c : Column) : Importing TypeRef := do
  let name ← match c.valueObject with
    | some m => reference m.interfaceName
    | none => pure c.scalar.signatureType
  return { name, nullable := c.nullable }

/-- The reference to the class of a conversion that is called on the class. -/
def callReference (className : String) (call : ValueObject.MethodCall) : Importing String :=
  match call.kind with
  | .onClass => reference className
  | .onValue => pure ""

/-- The value of a row's entry, converted but not guarded. -/
def fromRaw (c : Column) (raw : Expression) : Importing Expression :=
  match c.valueObject with
  | some m => do return .call m.fromRaw (← callReference m.className m.fromRaw) raw
  | none =>
    pure <| match c.scalar with
      | .json => .decodeJson raw
      | .datetime => .makeDate raw
      | s => match s.cast? with
        | some type => .cast type raw
        | none => raw

/-- The value that a row gives to a column. -/
def hydrate (c : Column) : Importing Expression := do
  let raw := Expression.entry "row" c.name
  let value ← fromRaw c raw
  return if c.nullable then .ifSet raw value else value

/-- The conversion of a member's value, if it is converted at all. -/
def toRaw? (format : String) (c : Column) (value : Expression) : Importing (Option Expression) :=
  match c.valueObject with
  | some m => do return some (.call m.toRaw (← callReference m.className m.toRaw) value)
  | none =>
    pure <| match c.scalar with
      | .json => some (.encodeJson value)
      | .datetime => some (.formatDate value format)
      | _ => none

/-- The value that a member gives to the database. -/
def dehydrate (format : String) (c : Column) : Importing Expression := do
  let value := Expression.field c.field
  match ← toRaw? format c value with
  | none => return value
  | some converted => return if c.nullable then .unlessNull value converted else converted

/-- The member of a column. -/
def memberOf (c : Column) : Importing Member := do return ⟨c, ← memberType c⟩

/-- The member of a read-only column, and the types of its setter and getter. -/
def readOnlyMember (c : Column) : Importing (Member × TypeRef × TypeRef) := do
  return (← memberOf c, ← memberType c, ← memberType c)

/-- The data class of a table. The order in which classes are named decides which of them have
their short name. -/
def outline (t : Table) (r : Rendering) (defaults : List (Option Literal)) :
    Importing Outline := do
  let interface ← reference r.library.dataInterface
  let parameters ← t.readWrite.mapM memberOf
  let rowArguments ← t.readWrite.mapM hydrate
  let rowSetters ← t.readOnly.mapM fun c => do return (c.setter, ← hydrate c)
  let databaseEntries ← t.readWrite.mapM fun c => do
    return (c.name, ← dehydrate r.datetimeFormat c)
  let readWrite ← t.readWrite.mapM memberOf
  let readOnly ← t.readOnly.mapM readOnlyMember
  return {
    interface
    parameters := parameters.zip defaults
    arrayArguments := t.readWrite.map fun c => .entry "data" (r.keyStyle.apply c.name)
    rowArguments, rowSetters, databaseEntries, readWrite, readOnly }

/-! ## Members in words -/

/-- A new object with one argument a line. -/
def newSelf (arguments : List Expression) : String :=
  if arguments.isEmpty then "new self()"
  else "new self(\n\t" ++ ",\n\t".intercalate (arguments.map Expression.text) ++ ",\n)"

def getter (c : Column) (type : TypeRef) : Method :=
  { name := c.getter, returns := some type, body := code ("return $this->" ++ c.field ++ ";") }

def setter (c : Column) (type : TypeRef) : Method :=
  { name := c.setter, visibility := .priv
    params := [{ name := c.field, type := some type }]
    returns := some { name := "self" }
    body := code ("$this->" ++ c.field ++ " = $" ++ c.field ++ ";\n\nreturn $this;") }

namespace Outline

def constructor (o : Outline) : Method :=
  { name := "__construct"
    params := o.parameters.map fun (m, default) =>
      { name := m.column.field, type := some m.type, default, promoted := some .prot } }

def fromArray (o : Outline) : Method :=
  { name := "fromArray", isStatic := true
    params := [{ name := "data", type := some { name := "iterable" } }]
    returns := some { name := "self" }
    body := code ("return " ++ newSelf o.arrayArguments ++ ";") }

/-- The lines that set the read-only columns of an object and return it. -/
def setterLines (o : Outline) : List String :=
  [""] ++ o.rowSetters.map (fun (name, e) => "$instance->" ++ name ++ "(" ++ e.text ++ ");")
    ++ ["", "return $instance;"]

def fromRow (o : Outline) : Method :=
  { name := "fromRow", isStatic := true
    params := [{ name := "row", type := some { name := "array" } }]
    returns := some { name := "self" }
    comment := ["@param array<string, mixed> $row"]
    body :=
      if o.rowSetters.isEmpty then code ("return " ++ newSelf o.rowArguments ++ ";")
      else code ("$instance = " ++ newSelf o.rowArguments ++ ";") ++ o.setterLines }

def toArray : Method :=
  { name := "toArray", returns := some { name := "array" }
    body := code "return get_object_vars($this);" }

def entryText (e : String × Expression) : String := quoteString e.1 ++ " => " ++ e.2.text ++ ","

def toDatabaseArray (o : Outline) : Method :=
  { name := "toDatabaseArray", returns := some { name := "array" }
    comment := ["@return array<string, mixed>"]
    body := code <|
      if o.databaseEntries.isEmpty then "return [];"
      else "return [\n\t" ++ "\n\t".intercalate (o.databaseEntries.map entryText) ++ "\n];" }

def properties (o : Outline) : List Property :=
  o.readOnly.map fun (m, _, _) =>
    { name := m.column.field, visibility := .prot, type := some m.type
      value := if m.column.nullable then some .null else none }

def methods (o : Outline) : List Method :=
  [o.constructor, o.fromArray, o.fromRow, toArray, o.toDatabaseArray]
    ++ o.readWrite.map (fun m => getter m.column m.type)
    ++ o.readOnly.flatMap fun (m, setterType, getterType) =>
      [setter m.column setterType, getter m.column getterType]

def declaration (o : Outline) (className : String) : ClassDecl :=
  { name := className, interfaces := [o.interface], properties := o.properties
    methods := o.methods }

end Outline

def dataFile (t : Table) (names : Names) (r : Rendering) : Warned File := do
  let className := names.className .data
  let defaults ← parameterDefaults t.readWrite
  let (o, imports) := outline t r defaults (importsFor (names.namespaceOf .data) className)
  return { imports, declared := o.declaration className }

end TableClasses.Classes
