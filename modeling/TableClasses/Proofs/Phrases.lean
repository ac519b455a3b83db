import TableClasses.Proofs.Labels
import TableClasses.Proofs.Quotations

/-!
# The code of a data class

What the methods of a data class say, read off the lines of their bodies. `HasText` is the grammar of
the expressions, in which keys and formats stand in literals as the scanner of quoted strings reads
them. `ArrayCode`, `RowCode` and `DatabaseCode` look a method up by its name and say of which
expressions its body is made, line by line.

A body is written in one piece and then cut into lines. `cut` are the lines that come out of this
where names with line breaks may stand in the code. Where there are none the lines are as they were
written, and the layout is `id`.
-/

namespace TableClasses.Classes

open TableClasses.Text TableClasses.Naming TableClasses.Code TableClasses.ValueObject

/-! ## Expressions -/

namespace Expression

/-- An entry of an array or a property of the object. -/
def isVariable : Expression → Bool
  | entry _ _ => true
  | field _ => true
  | _ => false

def isConditional : Expression → Bool
  | ifSet _ _ => true
  | unlessNull _ _ => true
  | _ => false

/-- `HasText e s`: the code `s` is the expression `e`. An array has a label for its name, and a property
one of the characters of labels. A cast and a method belong to the variable next to them, only
variables are guards, and no conditional stands in another one. -/
inductive HasText : Expression → String → Prop
  | entry {array key literal : String} (harray : isLabel array = true)
      (hkey : scanQuoted literal.toList = some (key.toList, [])) :
    HasText (entry array key) ("$" ++ array ++ "[" ++ literal ++ "]")
  | field {name : String} (hname : ∀ d ∈ name.toList, isLabelPart d = true) :
    HasText (field name) ("$this->" ++ name)
  | cast {type s : String} {e : Expression}
      (htype : type ∈ ["(int)", "(float)", "(bool)", "(string)"]) (he : e.isVariable = true)
      (hs : HasText e s) :
    HasText (cast type e) (type ++ " " ++ s)
  | decodeJson {e : Expression} {s : String} (hs : HasText e s) :
    HasText (decodeJson e) ("json_decode(" ++ s ++ ", true)")
  | encodeJson {e : Expression} {s : String} (hs : HasText e s) :
    HasText (encodeJson e) ("json_encode(" ++ s ++ ")")
  | makeDate {e : Expression} {s : String} (hs : HasText e s) :
    HasText (makeDate e) ("new \\DateTimeImmutable(" ++ s ++ ")")
  | formatDate {e : Expression} {s format literal : String} (he : e.isVariable = true)
      (hs : HasText e s) (hformat : scanQuoted literal.toList = some (format.toList, [])) :
    HasText (formatDate e format) (s ++ "->format(" ++ literal ++ ")")
  | callOnClass {method classRef : String} {e : Expression} {s : String} (hs : HasText e s) :
    HasText (call ⟨method, .onClass⟩ classRef e) (classRef ++ "::" ++ method ++ "(" ++ s ++ ")")
  | callOnValue {method classRef : String} {e : Expression} {s : String}
      (he : e.isVariable = true) (hs : HasText e s) :
    HasText (call ⟨method, .onValue⟩ classRef e) (s ++ "->" ++ method ++ "()")
  | ifSet {guard e : Expression} {g s : String} (hguard : guard.isVariable = true)
      (he : e.isConditional = false) (hg : HasText guard g) (hs : HasText e s) :
    HasText (ifSet guard e) ("isset(" ++ g ++ ") ? " ++ s ++ " : null")
  | unlessNull {guard e : Expression} {g s : String} (hguard : guard.isVariable = true)
      (he : e.isConditional = false) (hg : HasText guard g) (hs : HasText e s) :
    HasText (unlessNull guard e) (g ++ " === null ? null : " ++ s)

end Expression

open Expression

theorem scanQuoted_quoteString (s : String) :
    scanQuoted (quoteString s).toList = some (s.toList, []) := by
  rw [quoteString, String.toList_ofList]
  simpa using scanQuoted_quote s.toList []

theorem hasText_entry {array : String} (harray : isLabel array = true) (key : String) :
    HasText (entry array key) (entry array key).text :=
  .entry harray (scanQuoted_quoteString key)

theorem hasText_call (method : MethodCall) (classRef : String) {e : Expression}
    (he : e.isVariable = true) (h : HasText e e.text) :
    HasText (call method classRef e) (call method classRef e).text := by
  obtain ⟨name, _ | _⟩ := method
  · exact .callOnClass h
  · exact .callOnValue he h

/-- A conversion of a variable is printed as itself, and it is no conditional. -/
theorem lasting_hasText_fromRaw (c : Column) {raw : Expression} (hraw : raw.isVariable = true)
    (h : HasText raw raw.text) :
    Lasting (fromRaw c raw) fun _ e => e.isConditional = false ∧ HasText e e.text := by
  unfold fromRaw
  cases c.valueObject with
  | some m =>
    exact (lasting_callReference m.className m.fromRaw).bind fun ref =>
      .pure fun _ _ => ⟨rfl, hasText_call m.fromRaw ref hraw h⟩
  | none =>
    refine .pure fun _ => ?_
    cases c.scalar with
    | json => exact ⟨rfl, .decodeJson h⟩
    | datetime => exact ⟨rfl, .makeDate h⟩
    | _ => exact ⟨rfl, .cast (by decide) hraw h⟩

theorem lasting_hasText_hydrate (c : Column) :
    Lasting (hydrate c) fun _ e => HasText e e.text := by
  have hentry : HasText (entry "row" c.name) _ := hasText_entry (by decide) c.name
  unfold hydrate
  refine (lasting_hasText_fromRaw c rfl hentry).bind fun value => .pure fun _ hvalue => ?_
  split
  · exact .ifSet rfl hvalue.1 hentry hvalue.2
  · exact hvalue.2

theorem lasting_hasText_toRaw? (format : String) (c : Column) {value : Expression}
    (hvalue : value.isVariable = true) (h : HasText value value.text) :
    Lasting (toRaw? format c value) fun _ e? =>
      ∀ e ∈ e?, e.isConditional = false ∧ HasText e e.text := by
  unfold toRaw?
  cases c.valueObject with
  | some m =>
    refine (lasting_callReference m.className m.toRaw).bind fun ref => .pure fun _ _ e he => ?_
    obtain rfl := Option.some.inj he
    exact ⟨rfl, hasText_call m.toRaw ref hvalue h⟩
  | none =>
    refine .pure fun _ e he => ?_
    cases hs : c.scalar with
    | json =>
      rw [hs] at he
      obtain rfl := Option.some.inj he
      exact ⟨rfl, .encodeJson h⟩
    | datetime =>
      rw [hs] at he
      obtain rfl := Option.some.inj he
      exact ⟨rfl, .formatDate hvalue h (scanQuoted_quoteString format)⟩
    | _ =>
      rw [hs] at he
      cases he

theorem lasting_hasText_dehydrate (format : String) (c : Column) :
    Lasting (dehydrate format c) fun _ e => HasText e e.text := by
  have hfield : HasText (field c.field) (field c.field).text :=
    .field (isLabelPart_camel c.name)
  unfold dehydrate
  refine (lasting_hasText_toRaw? format c rfl hfield).bind fun converted => ?_
  cases converted with
  | none => exact .pure fun _ _ => hfield
  | some value =>
    refine .pure fun _ hvalue => ?_
    obtain ⟨hconditional, htext⟩ := hvalue value rfl
    split
    · exact .unlessNull rfl hconditional hfield htext
    · exact htext

/-! ## Lines -/

/-- The lines of a statement that makes an object, one argument a line. -/
def newSelfLines (before : String) (arguments : List String) : List String :=
  if arguments.isEmpty then [before ++ "new self();"]
  else (before ++ "new self(") :: arguments.map (fun a => "\t" ++ a ++ ",") ++ [");"]

/-- The lines of a statement that returns an array, one entry a line. -/
def arrayLines (entries : List String) : List String :=
  if entries.isEmpty then ["return [];"]
  else "return [" :: entries.map (fun e => "\t" ++ e ++ ",") ++ ["];"]

/-- The line that passes a value to a setter of the new object. -/
inductive SetterCall : String × Expression → String → Prop
  | mk {name : String} {e : Expression} {s : String} (h : HasText e s) :
    SetterCall (name, e) ("$instance->" ++ name ++ "(" ++ s ++ ");")

/-- A key and its value. -/
inductive EntryText : String × Expression → String → Prop
  | mk {key : String} {e : Expression} {literal s : String}
      (hkey : scanQuoted literal.toList = some (key.toList, [])) (h : HasText e s) :
    EntryText (key, e) (literal ++ " => " ++ s)

/-- The lines of a text that is put together of lines, in which there may be line breaks. -/
def cut (lines : List String) : List String := lineTexts ("\n".intercalate lines)

/-! ## Methods -/

section
variable (layout : List String → List String) (c : ClassDecl)

/-- `fromArray` returns an object that is made of these arguments. -/
def ArrayCode (arguments : List Expression) : Prop :=
  ∃ m texts, c.method? "fromArray" = some m ∧ m.isStatic = true ∧
    m.params.map (·.name) = ["data"] ∧ List.Forall₂ HasText arguments texts ∧
    m.body = layout (newSelfLines "return " texts)

/-- `fromRow` makes an object of these arguments, passes these values to setters of the object, and
returns it. -/
def RowCode (arguments : List Expression) (setters : List (String × Expression)) : Prop :=
  ∃ m texts calls, c.method? "fromRow" = some m ∧ m.isStatic = true ∧
    m.params.map (·.name) = ["row"] ∧ List.Forall₂ HasText arguments texts ∧
    List.Forall₂ SetterCall setters calls ∧
    m.body =
      if setters.isEmpty then layout (newSelfLines "return " texts)
      else layout (newSelfLines "$instance = " texts) ++ [""] ++ calls ++ ["", "return $instance;"]

/-- `toDatabaseArray` returns an array of these entries. -/
def DatabaseCode (entries : List (String × Expression)) : Prop :=
  ∃ m texts, c.method? "toDatabaseArray" = some m ∧ m.isStatic = false ∧ m.params = [] ∧
    List.Forall₂ EntryText entries texts ∧ m.body = layout (arrayLines texts)

end

/-! ## Bodies -/

theorem toList_intercalate_feed (lines : List String) (last : String) :
    ("\n".intercalate (lines ++ [last])).toList
      = (lines.map String.toList).flatMap (· ++ ['\n']) ++ last.toList := by
  induction lines with
  | nil => simp
  | cons l rest ih =>
    have hne : (rest ++ [last]).map String.toList ≠ [] := by simp
    rw [String.toList_intercalate] at ih ⊢
    rw [List.cons_append, List.map_cons, List.intercalate_cons_of_ne_nil hne, ih]
    simp

/-- Separators between texts are endings of their lines. -/
theorem join_separated (stop : List Char) {ts : List (List Char)} (h : ts ≠ []) :
    ['\n', '\t'] ++ (stop ++ ['\n', '\t']).intercalate ts ++ stop ++ ['\n']
      = '\n' :: (ts.map fun t => '\t' :: (t ++ stop)).flatMap (· ++ ['\n']) := by
  induction ts with
  | nil => exact absurd rfl h
  | cons t rest ih =>
    cases rest with
    | nil => simp
    | cons u us =>
      have htail := ih (by simp)
      simp only [List.map_cons, List.flatMap_cons, List.cons_append, List.nil_append,
        List.cons.injEq, true_and] at htail ⊢
      rw [List.intercalate_cons_of_ne_nil (by simp), ← htail]
      simp

/-- Texts in brackets, one tabulator in. -/
theorem separated_eq (opening stop closing : String) {ts : List String} (h : ts ≠ []) :
    opening ++ "\n\t" ++ (stop ++ "\n\t").intercalate ts ++ stop ++ "\n" ++ closing
      = "\n".intercalate (opening :: ts.map (fun t => "\t" ++ t ++ stop) ++ [closing]) := by
  have hne : ts.map String.toList ≠ [] := by simpa using h
  have hjoin := join_separated stop.toList hne
  apply String.toList_injective
  rw [toList_intercalate_feed]
  simp only [List.map_cons, List.flatMap_cons, List.map_map, Function.comp_def,
    String.toList_append, String.toList_intercalate] at hjoin ⊢
  simpa using congrArg (fun l => opening.toList ++ l ++ closing.toList) hjoin

theorem code_newSelf (before : String) (arguments : List Expression) :
    code (before ++ newSelf arguments ++ ";")
      = cut (newSelfLines before (arguments.map Expression.text)) := by
  refine congrArg lineTexts ?_
  unfold newSelf newSelfLines
  rw [List.isEmpty_map]
  split
  · apply String.toList_injective
    simp
  · next hne =>
    have htexts : arguments.map Expression.text ≠ [] := by simpa using hne
    rw [← separated_eq _ _ _ htexts]
    apply String.toList_injective
    simp

/-- The line of a setter call, as it is printed. -/
def setterText (e : String × Expression) : String :=
  "$instance->" ++ e.1 ++ "(" ++ e.2.text ++ ");"

/-- An entry of `toDatabaseArray` without the comma behind it. -/
def pairText (e : String × Expression) : String := quoteString e.1 ++ " => " ++ e.2.text

theorem code_entries {entries : List (String × Expression)} (h : entries ≠ []) :
    code ("return [\n\t" ++ "\n\t".intercalate (entries.map Outline.entryText) ++ "\n];")
      = cut (arrayLines (entries.map pairText)) := by
  have htexts : entries.map Outline.entryText ≠ [] := by simpa using h
  have hseparated := separated_eq "return [" "" "];" htexts
  have hlines : arrayLines (entries.map pairText) =
      "return [" :: (entries.map Outline.entryText).map (fun t => "\t" ++ t ++ "") ++ ["];"] := by
    simp [arrayLines, h, pairText, Outline.entryText, Function.comp_def, String.append_assoc]
  refine congrArg lineTexts ?_
  rw [hlines, ← hseparated]
  apply String.toList_injective
  simp

namespace Outline

/-- The methods of a data class for whole rows. -/
theorem map_name_rowMethods (o : Outline) :
    [o.constructor, o.fromArray, o.fromRow, toArray, o.toDatabaseArray].map Method.name
      = ["__construct", "fromArray", "fromRow", "toArray", "toDatabaseArray"] := rfl

/-- The lines of an outline's methods in a layout. -/
structure Laid (o : Outline) (layout : List String → List String) : Prop where
  fromArray :
    o.fromArray.body = layout (newSelfLines "return " (o.arrayArguments.map Expression.text))
  fromRow : o.fromRow.body =
    if o.rowSetters.isEmpty then
      layout (newSelfLines "return " (o.rowArguments.map Expression.text))
    else
      layout (newSelfLines "$instance = " (o.rowArguments.map Expression.text)) ++ [""]
        ++ o.rowSetters.map setterText ++ ["", "return $instance;"]
  toDatabaseArray : o.toDatabaseArray.body = layout (arrayLines (o.databaseEntries.map pairText))

theorem laid_cut (o : Outline) : o.Laid cut where
  fromArray := code_newSelf "return " o.arrayArguments
  fromRow := by
    unfold Outline.fromRow
    dsimp only
    rw [code_newSelf, code_newSelf]
    simp only [setterLines, List.append_assoc]
    rfl
  toDatabaseArray := by
    unfold Outline.toDatabaseArray
    cases hentries : o.databaseEntries with
    | nil => rfl
    | cons e rest => exact code_entries (List.cons_ne_nil e rest)

section
variable {o : Outline} {layout : List String → List String} (h : o.Laid layout) (name : String)
include h

theorem Laid.arrayCode (hargument : ∀ e ∈ o.arrayArguments, HasText e e.text) :
    ArrayCode layout (o.declaration name) o.arrayArguments :=
  ⟨o.fromArray, _, rfl, rfl, rfl,
    List.forall₂_map_right_iff.2 (List.forall₂_same.2 hargument), h.fromArray⟩

theorem Laid.rowCode (hargument : ∀ e ∈ o.rowArguments, HasText e e.text)
    (hsetter : ∀ e ∈ o.rowSetters, HasText e.2 e.2.text) :
    RowCode layout (o.declaration name) o.rowArguments o.rowSetters := by
  have hcalls : List.Forall₂ SetterCall o.rowSetters (o.rowSetters.map setterText) :=
    List.forall₂_map_right_iff.2 (List.forall₂_same.2 fun e he => .mk (hsetter e he))
  exact ⟨o.fromRow, _, _, rfl, rfl, rfl,
    List.forall₂_map_right_iff.2 (List.forall₂_same.2 hargument), hcalls, h.fromRow⟩

theorem Laid.databaseCode (hentry : ∀ e ∈ o.databaseEntries, HasText e.2 e.2.text) :
    DatabaseCode layout (o.declaration name) o.databaseEntries := by
  have htexts : List.Forall₂ EntryText o.databaseEntries (o.databaseEntries.map pairText) :=
    List.forall₂_map_right_iff.2 (List.forall₂_same.2 fun e he =>
      .mk (scanQuoted_quoteString e.1) (hentry e he))
  exact ⟨o.toDatabaseArray, _, rfl, rfl, rfl, htexts, h.toDatabaseArray⟩

end

end Outline

/-- The class of a table's data class says what its outline says. -/
theorem Outline.Laid.codes_dataOutline {t : Table} {n : Names} {r : Rendering}
    {layout : List String → List String} (h : (dataOutline t n r).1.Laid layout)
    (className : String) :
    ArrayCode layout ((dataOutline t n r).1.declaration className)
        (t.readWrite.map fun c => .entry "data" (r.keyStyle.apply c.name)) ∧
      RowCode layout ((dataOutline t n r).1.declaration className) (dataOutline t n r).1.rowArguments
        (dataOutline t n r).1.rowSetters ∧
      DatabaseCode layout ((dataOutline t n r).1.declaration className)
        (dataOutline t n r).1.databaseEntries := by
  have htexts : Built t (fun _ _ e => HasText e e.text) (fun _ _ e => HasText e e.text)
      (dataOutline t n r).2 (dataOutline t n r).1 :=
    built_dataOutline (fun c _ => lasting_hasText_hydrate c)
      fun c _ => lasting_hasText_dehydrate r.datetimeFormat c
  refine ⟨?_, h.rowCode className (fun e he => ?_) fun e he => ?_,
    h.databaseCode className fun e he => ?_⟩
  · rw [← dataOutline_arrayArguments t n r]
    refine h.arrayCode className fun e he => ?_
    rw [dataOutline_arrayArguments] at he
    obtain ⟨c, -, rfl⟩ := List.mem_map.1 he
    exact hasText_entry (by decide) _
  · obtain ⟨c, -, htext⟩ := forall₂_exists htexts.rowArguments he
    exact htext
  · obtain ⟨c, -, -, htext⟩ := forall₂_exists htexts.rowSetters he
    exact htext
  · obtain ⟨c, -, -, htext⟩ := forall₂_exists htexts.databaseEntries he
    exact htext

end TableClasses.Classes
