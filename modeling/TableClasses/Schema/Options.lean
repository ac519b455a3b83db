import TableClasses.Report.Warning
import TableClasses.Schema.Flag
import TableClasses.Json.Reader

/-!
# Column options

Options say which value object wraps a column and whether it is read-only. They stand in the comment
of a column, as an object of options or as the name of a type behind a backslash, or in a document
of their own, the overlay, which lists options by table and column.
-/

namespace TableClasses.Schema

open TableClasses.Text

/-- The keys of options. -/
inductive OptionKey where
  | typeClass
  | readOnly
  deriving DecidableEq, Repr

def OptionKey.ofName (name : String) : Except UnknownOption OptionKey :=
  if name = "typeClass" then .ok .typeClass
  else if name = "readOnly" ∨ name = "readonly" then .ok .readOnly
  else .error ⟨name⟩

structure Options where
  typeClass : Option String := none
  readOnly : Bool := false
  deriving DecidableEq, Repr

/-- The type that an option names: a text that is not blank. -/
def typeClassOf : Json → Warned (Option String)
  | .null => pure none
  | .string s =>
    if isAllBlank s then do
      warn (.typeClassNotText (.string s))
      return none
    else pure (some (trimBlanks s))
  | v => do
    warn (.typeClassNotText v)
    return none

namespace Options

/-- Applies one option to those before it. -/
def apply (o : Options) (key : String) (value : Json) : Warned Options :=
  match OptionKey.ofName key with
  | .ok .typeClass => do return { o with typeClass := ← typeClassOf value }
  | .ok .readOnly => pure { o with readOnly := isTrue value }
  | .error unknown => do
    warn (.unknownOption unknown)
    return o

/-- The options of an object, applied in order. -/
def ofEntries (es : List (String × Json)) : Warned Options :=
  es.foldlM (fun o e => o.apply e.1 e.2) {}

/-- The options in a comment. -/
def ofComment (comment : String) : Warned Options :=
  let comment := trimBlanks comment
  if comment = "" then pure {}
  else
    match Json.parse? comment with
    | some (.object es) => ofEntries es
    | some _ => do
      warn (.commentNotOptions comment)
      return {}
    | none =>
      match comment.toList with
      | '\x7b' :: _ => do
        warn (.commentMalformed comment)
        return {}
      | '\\' :: _ :: _ => pure { typeClass := some comment }
      | _ => do
        warn (.commentUnused comment)
        return {}

end Options

/-! ## Overlay -/

/-- Options by table and column. -/
structure Overlay where
  tables : Entries (Entries Options) := []

namespace Overlay

/-- The options of one column of an overlay. -/
def columnOptions (table column : String) : Json → Warned Options
  | .object es => Options.ofEntries es
  | .null => pure {}
  | v => do
    warn (.columnMetaNotMapping table column v)
    return {}

/-- The options of one table of an overlay. -/
def tableOptions (table : String) : Json → Warned (Entries Options)
  | .object es =>
    es.foldlM (fun columns e => do return columns.put e.1 (← columnOptions table e.1 e.2)) []
  | .null => pure []
  | v => do
    warn (.tableMetaNotMapping table v)
    return []

/-- The overlay with these entries. -/
def ofEntries (es : List (String × Json)) : Warned Overlay :=
  es.foldlM (fun o e => do return ⟨o.tables.put e.1 (← tableOptions e.1 e.2)⟩) {}

/-- The options of a column; those that are not listed have their defaults. -/
def column (o : Overlay) (table column : String) : Options :=
  ((o.tables.get? table).bind (·.get? column)).getD {}

def isEmpty (o : Overlay) : Bool := o.tables.isEmpty

end Overlay

end TableClasses.Schema
