import TableClasses.Settings
import TableClasses.Decimal.Numeral
import TableClasses.Text.Case

/-!
# Reading settings from a document

Settings are read from a document in one of two ways. An exact reading wants every value to be of
the type of its setting. A lenient one takes numbers and truth values for texts, and texts and
numbers for truth values and counts. A setting that is not given has its default, names that no
setting has are ignored, and a group of settings may also be a list of values in their order.
-/

namespace TableClasses

open Text Decimal Classes ValueObject

/-- How loosely values are taken. -/
inductive Reading where
  | exact
  | lenient
  deriving DecidableEq, Repr

namespace Reading

def boolText (b : Bool) : String := if b then "true" else "false"

/-- A number as a lenient reading takes it: a whole number beyond 64 bits with a sign is a float. -/
def narrow : Number → Number
  | .int i => if inInt64 i then .int i else .float (Binary64.ofNat i.toNat)
  | x => x

def numberText : Number → String
  | .int i => toString i
  | .float x => x.plainText

def text? (r : Reading) : Json → Option String
  | .string s => some s
  | .bool b => if r = .lenient then some (boolText b) else none
  | .number n => if r = .lenient then some (numberText (narrow n)) else none
  | _ => none

/-- The truth value that a text means. -/
def wordFlag? (s : String) : Option Bool :=
  let word := lowerText s
  if ["1", "true", "on", "yes"].contains word then some true
  else if ["0", "false", "off", "no"].contains word then some false
  else none

def flag? (r : Reading) : Json → Option Bool
  | .bool b => some b
  | .number n => if r = .lenient then some (!n.isZero) else none
  | .string s => if r = .lenient then wordFlag? s else none
  | _ => none

/-- The numbers that a count may be. -/
def countLimit : Nat := bound 64

/-- The count that a text means: a truth value or a numeral, perhaps behind a plus sign. -/
def wordCount? (s : String) : Option Nat :=
  let word := lowerText s
  if ["true", "on", "yes"].contains word then some 1
  else if ["false", "off", "no"].contains word then some 0
  else
    let digits := match s.toList with
      | '+' :: rest => rest
      | cs => cs
    (natOf? digits).filter (fun n => decide (n < countLimit))

/-- The count that a number means: a whole one itself, and for a lenient reading the nearest one. -/
def numberCount? (r : Reading) : Number → Option Nat
  | .int i => if 0 ≤ i ∧ i < countLimit then some i.toNat else none
  | .float x => if r = .lenient then some (x.toCount (countLimit - 1)) else none

def count? (r : Reading) : Json → Option Nat
  | .number n => r.numberCount? (if r = .lenient then narrow n else n)
  | .bool b => if r = .lenient then some b.toNat else none
  | .string s => if r = .lenient then wordCount? s else none
  | _ => none

/-- A value that may be null. -/
def optional? {α : Type} (read : Json → Option α) : Json → Option (Option α)
  | .null => some none
  | v => (read v).map some

def list? {α : Type} (read : Json → Option α) : Json → Option (List α)
  | .array vs => vs.mapM read
  | _ => none

/-- One of several choices, by its name; the name may be the only key of an object. What stands
under it is not looked at, except that an exact reading wants it to be empty. -/
def choice? {α : Type} (r : Reading) (ofName? : String → Option α) : Json → Option α
  | .string s => ofName? s
  | .object [(name, v)] =>
    match r, v with
    | .lenient, _ => ofName? name
    | .exact, .array [] => ofName? name
    | .exact, .object [] => ofName? name
    | .exact, _ => none
  | _ => none

/-- The entries of a group with these names. -/
def group? (names : List String) : Json → Option (Entries Json)
  | .object es => some es
  | .array vs => some (names.zip vs)
  | _ => none

/-- The value of a name in a group, or its default. -/
def setting {α : Type} (es : Entries Json) (name : String) (default : α) (read : Json → Option α) :
    Option α :=
  match es.get? name with
  | some v => read v
  | none => some default

/-! ## Groups of settings -/

def method? (r : Reading) (v : Json) : Option MethodDecl := do
  let es ← group? ["name", "kind", "visibility", "required_params"] v
  return {
    name := ← (es.get? "name").bind r.text?
    kind := ← setting es "kind" .onValue (r.choice? CallKind.ofName?)
    visibility := ← setting es "visibility" .pub (r.choice? Code.Visibility.ofText?)
    requiredParams := ← setting es "required_params" 0 r.count? }

def type? (r : Reading) (v : Json) : Option TypeDecl := do
  let es ← group? ["name", "parent", "methods"] v
  return {
    name := ← (es.get? "name").bind r.text?
    parent := ← setting es "parent" none (optional? r.text?)
    methods := ← setting es "methods" [] (list? r.method?) }

def library? (r : Reading) (v : Json) : Option Library := do
  let es ← group? ["data_interface", "collection_base", "collection_interface", "storage_base"] v
  let base : Library := {}
  return {
    dataInterface := ← setting es "data_interface" base.dataInterface r.text?
    collectionBase := ← setting es "collection_base" base.collectionBase r.text?
    collectionInterface := ← setting es "collection_interface" base.collectionInterface r.text?
    storageBase := ← setting es "storage_base" base.storageBase r.text? }

def rendering? (r : Reading) (es : Entries Json) : Option Rendering := do
  let base : Rendering := {}
  return {
    baseNamespace := ← setting es "base_namespace" base.baseNamespace r.text?
    keyStyle := ← setting es "array_key_style" base.keyStyle (r.choice? Naming.KeyStyle.ofName?)
    datetimeFormat := ← setting es "datetime_format" base.datetimeFormat r.text?
    library := ← setting es "runtime" base.library r.library? }

def output? (r : Reading) (es : Entries Json) : Option Output.Options := do
  let base : Output.Options := {}
  return {
    directory := ← setting es "output_dir" base.directory r.text?
    ignoredNamespace := ← setting es "ignored_namespace" base.ignoredNamespace r.text?
    dryRun := ← setting es "dry_run" base.dryRun r.flag?
    force := ← setting es "force" base.force r.flag?
    print := ← setting es "print" base.print r.flag? }

/-- The settings of a document. -/
def settings? (r : Reading) (doc : Json) : Option Settings := do
  let es ← doc.entries?
  let base : Settings := {}
  return {
    schemaFile := ← setting es "schema_file" base.schemaFile r.text?
    metaFile := ← setting es "meta_file" base.metaFile (optional? r.text?)
    table := ← setting es "table" base.table (optional? r.text?)
    artifacts := ← setting es "artifacts" base.artifacts (list? r.text?)
    rendering := ← r.rendering? es
    output := ← r.output? es
    valueObjects := ← setting es "value_objects" base.valueObjects (list? r.type?)
    logLevel := ← setting es "log_level" base.logLevel (optional? r.text?) }

end Reading

end TableClasses
