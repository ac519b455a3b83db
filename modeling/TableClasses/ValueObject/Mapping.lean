import TableClasses.ValueObject.Catalog

/-!
# Mappings of value objects

A family of value objects names the method that makes an object from a raw value and the one that
turns it back. `Conversions.resolve` finds the family of a type, checks that both methods may be
called from outside with at most one argument, and gives the mapping with which a column is
converted.
-/

namespace TableClasses.ValueObject

/-- A family of value objects. For each type it may fix the class that has the methods and the
interface that signatures show; otherwise they are the type itself and that class. -/
structure Family where
  name : String
  fromMethod : String
  toMethod : String
  fixedClass : String → Option String := fun _ => none
  fixedInterface : String → Option String := fun _ => none

/-- A name on its own is fixed for every type. -/
instance fixedName : Coe (Option String) (String → Option String) := ⟨fun name _ => name⟩

namespace Family

/-- The class that has the methods for a type. -/
def className (f : Family) (type : String) : String := (f.fixedClass type).getD type

/-- The type that signatures show for a type. -/
def interfaceName (f : Family) (type : String) : String :=
  (f.fixedInterface type).getD (f.className type)

def uuid : Family :=
  { name := "uuid", fromMethod := "fromString", toMethod := "toString"
    fixedClass := some uuidClass, fixedInterface := some uuidInterface }

def enum : Family := { name := "enum", fromMethod := "get", toMethod := "getValue" }

end Family

structure MethodCall where
  method : String
  kind : CallKind
  deriving DecidableEq, Repr

/-- How a column is converted to a value object and back. -/
structure Mapping where
  family : String
  className : String
  interfaceName : String
  fromRaw : MethodCall
  toRaw : MethodCall
  deriving DecidableEq, Repr

namespace Mapping

/-- The call of a method on a value, or with it on a class. -/
def callText (call : MethodCall) (classRef value : String) : String :=
  match call.kind with
  | .onClass => classRef ++ "::" ++ call.method ++ "(" ++ value ++ ")"
  | .onValue => value ++ "->" ++ call.method ++ "()"

/-- Code that makes the object from a raw value. -/
def fromRawText (m : Mapping) (classRef raw : String) : String := callText m.fromRaw classRef raw

/-- Code that turns the object back. -/
def toRawText (m : Mapping) (classRef value : String) : String := callText m.toRaw classRef value

/-- The call by which a collection turns its keys into texts. -/
def keyCallText (m : Mapping) : String :=
  match m.toRaw.kind with
  | .onClass => "\\" ++ m.className ++ "::" ++ m.toRaw.method ++ "()"
  | .onValue => "->" ++ m.toRaw.method ++ "()"

end Mapping

/-- Why a type cannot be mapped. -/
inductive MappingFault where
  | missingMethod (className method : String)
  | notPublic (className method : String)
  | tooManyParameters (className method : String) (required : Nat)
  deriving DecidableEq, Repr

def MappingFault.message : MappingFault → String
  | missingMethod c m => "Class " ++ c ++ " doesn't have method " ++ m
  | notPublic c m => "Invoked method " ++ m ++ " of class " ++ c ++ " is not public"
  | tooManyParameters c m n =>
    "Method " ++ m ++ " of class " ++ c ++ " has more than one required parameter ("
      ++ toString n ++ ")"

/-- The known types and the families of some of them. -/
structure Conversions where
  catalog : Catalog
  families : Entries Family

namespace Conversions

/-- The identifier and enumeration families over a catalog. -/
def ofCatalog (catalog : Catalog) : Conversions :=
  { catalog, families := [(uuidInterface, .uuid), (uuidClass, .uuid), (enumBase, .enum)] }

/-- Gives a type, and all that inherit from it, a family. -/
def register (c : Conversions) (type : String) (family : Family) : Conversions :=
  { c with families := c.families.put (normalizeName type) family }

/-- Whether a type of that name is known. -/
def isKnown (c : Conversions) (type : String) : Bool :=
  normalizeName type != "" && c.catalog.contains (normalizeName type)

/-- The method as a call, if it may be called with at most one argument. -/
def checkedCall (c : Conversions) (className method : String) : Except MappingFault MethodCall :=
  match c.catalog.findMethod? className method with
  | none => .error (.missingMethod className method)
  | some d =>
    if d.visibility ≠ .pub then .error (.notPublic className method)
    else if 1 < d.requiredParams then .error (.tooManyParameters className method d.requiredParams)
    else .ok ⟨d.name, d.kind⟩

/-- The family of the nearest ancestor that has one. -/
def family? (c : Conversions) (type : String) : Option Family :=
  (c.catalog.lineage type).findSome? c.families.get?

/-- The mapping of a type; nothing for a type that is unknown or has no family. -/
def resolve (c : Conversions) (type : String) : Except MappingFault (Option Mapping) :=
  let name := normalizeName type
  if !c.isKnown name then .ok none
  else
    match c.family? name with
    | none => .ok none
    | some f => do
      let className := f.className name
      let fromRaw ← c.checkedCall className f.fromMethod
      let toRaw ← c.checkedCall className f.toMethod
      return some ⟨f.name, className, f.interfaceName name, fromRaw, toRaw⟩

end Conversions

end TableClasses.ValueObject
