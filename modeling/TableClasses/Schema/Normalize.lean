import TableClasses.Report.Error
import TableClasses.Schema.DataType
import TableClasses.Schema.Options
import TableClasses.ValueObject.Mapper

/-!
# Tables of a schema document

A schema document comes in two shapes. A catalog maps table names to records with a mapping of
columns, perhaps inside an entry `tables`. A grouped document describes one table whose columns
stand in a read-only and a read-write group. Both give tables with their columns in document order.

A column is kept if its value is a record that gives a data type. A table is kept if at least one
column is and if its columns make a table. Everything that is left out is reported, except tables
without columns and the table in which migrations are recorded.
-/

namespace TableClasses.Schema

open TableClasses.Text TableClasses.ValueObject

inductive Shape where
  | catalog
  | grouped
  deriving DecidableEq, Repr

/-- The shape of a document and its entries. -/
def shapeOf (doc : Json) : Except SchemaFault (Shape × Entries Json) :=
  match doc with
  | .object es => .ok (if Entries.has es "databaseTable" then .grouped else .catalog, es)
  | _ => .error .notAMapping

/-! ## Facts of a record -/

/-- The text of a scalar: a number, or a string that is not blank, without blanks around it. -/
def textOf? : Json → Option String
  | .string s => if isAllBlank s then none else some (trimBlanks s)
  | .number n => some n.text
  | _ => none

/-- A text without the single quotes around it, if there is one at both ends. -/
def unquote (s : List Char) : List Char :=
  match s with
  | '\'' :: rest =>
    match rest.getLast? with
    | some '\'' => rest.dropLast
    | _ => s
  | _ => s

/-- The default that a record gives; null, also as a text, is none. -/
def defaultOf : Json → Warned (Option String)
  | .null => pure none
  | .string s => pure (if asciiLower s = "null" then none else some (onChars unquote s))
  | .number n => pure (some n.text)
  | .bool b => pure (some (if b then "1" else "0"))
  | v => do
    warn (.defaultNotScalar v)
    return none

/-- The greatest length of 32 bits. -/
def lengthLimit : Nat := Decimal.bound 32 - 1

/-- The greatest length that a record gives: a whole number, cut off at 32 bits, or the text of one
that 32 bits hold. Anything else is no length, which is written 0. -/
def lengthOf : Json → Nat
  | .number (.int i) => min i.toNat lengthLimit
  | .string s => (Decimal.nat32Of? (trimBlanks s)).getD 0
  | _ => 0

/-! ## Columns -/

/-- What a document says about a column that is kept. -/
structure Source where
  name : String
  dataType : String
  nullable : Bool
  default : Option String
  maxLength : Nat
  comment : Option String
  readOnly : Bool
  deriving DecidableEq, Repr

/-- Work that resolves types on the way. -/
abbrev Normalizing := StateT Mapper Warned

/-- Resolves a type with the mapper at hand. -/
def resolveType (type : String) : Normalizing (Option Mapping) := fun m => m.resolve type

/-- Options come from the overlay if there is one, and otherwise from the comment. -/
def optionsOf (overlay : Option Overlay) (table : String) (s : Source) : Warned Options :=
  match overlay with
  | some o => pure (o.column table s.name)
  | none =>
    match s.comment with
    | some c => Options.ofComment c
    | none => pure {}

/-- The category of a column and the mapping that its data type has. A data type that names a known
type is stored as a string. -/
def classify (dataType : String) : Normalizing (Scalar × Option Mapping) := do
  if (← get).isKnown dataType then
    return (.string, ← resolveType dataType)
  else
    return (← scalarOf dataType, none)

/-- The mapping that the options ask for, or the one there was. -/
def withTypeClass (table column : String) (mapping : Option Mapping) :
    Option String → Normalizing (Option Mapping)
  | none => pure mapping
  | some type => do
    if (← get).isKnown type then
      return (← resolveType type) <|> mapping
    else
      warn (.typeClassUnknown type table column)
      return mapping

/-- The column of a source. A default is kept only if it can become a literal. -/
def columnOf (overlay : Option Overlay) (table : String) (s : Source) : Normalizing Column := do
  let options ← optionsOf overlay table s
  let (scalar, mapping) ← classify s.dataType
  let mapping ← withTypeClass table s.name mapping options.typeClass
  return {
    name := s.name
    scalar
    nullable := s.nullable
    default := if mapping.isSome || !scalar.hasLiterals then none else s.default
    maxLength := s.maxLength
    readOnly := s.readOnly || options.readOnly
    valueObject := mapping }

/-- The source of a record with a data type. -/
def sourceOf (name dataType : String) (readOnly : Bool) (r : Record) : Warned Source := do
  return {
    name
    dataType
    nullable := isTrue r.nullable
    default := ← defaultOf r.default
    maxLength := lengthOf r.maxLength
    comment := textOf? r.comment
    readOnly }

/-- The column of a record, if it gives a data type. -/
def recordColumn (overlay : Option Overlay) (table name : String) (readOnly : Bool) (r : Record) :
    Normalizing (Option Column) :=
  match textOf? r.dataType with
  | none => do
    warn (.noDataType table name)
    return none
  | some dataType => do
    let source ← sourceOf name dataType readOnly r
    return some (← columnOf overlay table source)

/-- The record of a value, if it is one. -/
def recordOf (layout : Layout) (table name : String) (v : Json) : Warned (Option Record) :=
  match layout.decode v with
  | .ok r => pure (some r)
  | .error fault => do
    warn (.notARecord table name fault)
    return none

/-- The table of the columns that were kept, if there are any and they make a table. -/
def tableOf (name : String) (columns : List Column) (key : Option String) :
    Warned (Option Table) :=
  if columns.isEmpty then pure none
  else
    match Table.make name columns key with
    | .ok t => pure (some t)
    | .error fault => do
      warn (.tableSkipped name fault)
      return none

/-! ## Catalogs -/

/-- The table in which migrations are recorded. -/
def housekeepingTable : String := "phinxlog"

/-- The columns kept so far and the column that is the primary key so far. -/
structure Kept where
  columns : List Column := []
  key : Option String := none
  deriving DecidableEq, Repr

/-- Whether a record says that its column belongs to the primary key. -/
def isKey (r : Record) : Bool := textOf? r.key == some "PRI"

/-- Makes a marked column the key if there is none yet, and reports it if there is one. -/
def Kept.mark (table name : String) (r : Record) (kept : Kept) : Warned Kept :=
  if isKey r then
    match kept.key with
    | none => pure { kept with key := some name }
    | some first => do
      warn (.compositeKey table first name)
      return kept
  else pure kept

/-- Takes the key back from a column that is not kept after all. -/
def Kept.unmark (name : String) (kept : Kept) : Kept :=
  if kept.key = some name then { kept with key := none } else kept

/-- Adds a column of a catalog table. Whether it is the key is settled before it is known whether the
column is kept. -/
def keepColumn (overlay : Option Overlay) (table : String) (kept : Kept) (e : String × Json) :
    Normalizing Kept := do
  let (name, v) := e
  match ← recordOf catalogLayout table name v with
  | none => return kept
  | some r =>
    let kept ← kept.mark table name r
    match ← recordColumn overlay table name false r with
    | none => return kept.unmark name
    | some c => return { kept with columns := kept.columns ++ [c] }

/-- The table of a catalog entry. -/
def catalogTable (overlay : Option Overlay) (e : String × Json) : Normalizing (Option Table) :=
  let (name, v) := e
  if name = housekeepingTable then pure none
  else
    match v.field? "columns" with
    | some (.object columns) => do
      let kept ← columns.foldlM (keepColumn overlay name) {}
      tableOf name kept.columns kept.key
    | _ => pure none

/-- The tables of catalog entries. -/
def catalogTables (overlay : Option Overlay) (es : List (String × Json)) :
    Normalizing (List Table) := do
  return (← es.mapM (catalogTable overlay)).filterMap id

/-- The entries of a catalog that describe tables. -/
def catalogEntries (root : Entries Json) : Except SchemaFault (Entries Json) :=
  match root.get? "tables" with
  | none => .ok root
  | some (.object es) => .ok es
  | some _ => .error .tablesNotMapping

/-! ## Grouped columns -/

/-- The columns of one group. -/
def groupColumns (overlay : Option Overlay) (table : String) (readOnly : Bool)
    (columns : List (String × Json)) : Normalizing (List Column) := do
  let kept ← columns.mapM fun (name, v) => do
    match ← recordOf groupedLayout table name v with
    | none => return none
    | some r => recordColumn overlay table name readOnly r
  return kept.filterMap id

/-- The columns of the group with this name; a group that is missing has none. -/
def group (overlay : Option Overlay) (table : String) (groups : Entries Json) (name : String)
    (readOnly : Bool) : Normalizing (List Column) :=
  match groups.get? name with
  | none => pure []
  | some .null => pure []
  | some (.object columns) => groupColumns overlay table readOnly columns
  | some v => do
    warn (.groupNotMapping name table v)
    return []

/-- The key if it is one of the columns. -/
def knownKey (table : String) (columns : List Column) : Option String → Warned (Option String)
  | none => pure none
  | some key =>
    if columns.any (·.name == key) then pure (some key)
    else do
      warn (.keyNotAColumn key table)
      return none

def warnGroups (table : String) (groups : Entries Json) : Warned Unit :=
  (groups.keys.filter fun g => g != "ro" && g != "rw").forM fun g => warn (.unknownGroup g table)

/-- The table of a grouped document, which may turn out to have no columns. -/
def groupedTable (overlay : Option Overlay) (name : String) (key : Option String)
    (groups : Entries Json) : Normalizing (Option Table) := do
  warnGroups name groups
  let readOnly ← group overlay name groups "ro" true
  let readWrite ← group overlay name groups "rw" false
  let columns := readOnly ++ readWrite
  if columns.isEmpty then return none
  else tableOf name columns (← knownKey name columns key)

/-- The groups of a grouped document. -/
def groupsOf (root : Entries Json) : Except SchemaFault (Entries Json) :=
  match root.get? "databaseCols" with
  | none => .ok []
  | some .null => .ok []
  | some (.object groups) => .ok groups
  | some _ => .error .groupsNotMapping

/-! ## Documents -/

/-- Work on one mapper that may end with a fault; the mapper outlives it. -/
abbrev InPlace := ExceptT SchemaFault Normalizing

def InPlace.check {α : Type} (r : Except SchemaFault α) : InPlace α := ExceptT.mk (pure r)

/-- Normalizes a document with one mapper throughout. -/
def normalizeInPlace (overlay : Option Overlay) (doc : Json) : InPlace (List Table) := do
  match ← InPlace.check (shapeOf doc) with
  | (.catalog, root) => do
    let es ← InPlace.check (catalogEntries root)
    ExceptT.lift (catalogTables overlay es)
  | (.grouped, root) =>
    match (root.get? "databaseTable").bind textOf? with
    | none => throw .unnamedTable
    | some name => do
      let groups ← InPlace.check (groupsOf root)
      let key := (root.get? "databaseTableId").bind textOf?
      ExceptT.lift do return (← groupedTable overlay name key groups).toList

/-- The tables of a document and the mapper afterwards. -/
def normalize (overlay : Option Overlay) (mapper : Mapper) (doc : Json) :
    Except SchemaFault (Warned (List Table × Mapper)) :=
  match (normalizeInPlace overlay doc).run mapper with
  | ⟨(.ok tables, mapper), warnings⟩ => .ok ⟨(tables, mapper), warnings⟩
  | ⟨(.error fault, _), _⟩ => .error fault

/-- The overlay of a document. -/
def overlayOf (doc : Json) : Except SchemaFault (Warned Overlay) :=
  match doc with
  | .object es => .ok (Overlay.ofEntries es)
  | _ => .error .overlayNotMapping

end TableClasses.Schema
