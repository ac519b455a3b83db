import TableClasses.Proofs.Phrases
import TableClasses.Proofs.Spelling

/-!
# Lines of the bodies

A body is written in one piece and cut into lines. It is cut between its expressions and nowhere
else if no expression has a line feed, which is so where the names of the columns, the format of
dates and the names of value objects have none.
-/

namespace TableClasses.Classes

open TableClasses.Text TableClasses.Naming TableClasses.Code TableClasses.ValueObject

/-- A text without line feeds. -/
def OneLine (s : String) : Prop := '\n' ∉ s.toList

instance : DecidablePred OneLine := fun s => inferInstanceAs (Decidable ('\n' ∉ s.toList))

theorem oneLine_append {s t : String} : OneLine (s ++ t) ↔ OneLine s ∧ OneLine t := by
  simp [OneLine]

/-! ## Lines that stay -/

/-- A text that a line feed may follow. -/
def Ended (s : String) : Prop := OneLine s ∧ s.toList.getLast? ≠ some '\r'

theorem cut_of_ended {lines : List String} {last : String} (h : ∀ l ∈ lines, Ended l)
    (hlast : OneLine last) (hne : last ≠ "") : cut (lines ++ [last]) = lines ++ [last] := by
  have hlines : ∀ l ∈ lines.map String.toList, '\n' ∉ l ∧ l.getLast? ≠ some '\r' :=
    List.forall_mem_map.2 h
  have hne' : last.toList ≠ [] := by simpa using hne
  rw [cut, lineTexts, toList_intercalate_feed, lines_flatMap hlines, lines_of_not_mem hlast hne']
  simp

theorem cut_singleton {s : String} (h : OneLine s) (hne : s ≠ "") : cut [s] = [s] := by
  have hcut := cut_of_ended (List.forall_mem_nil Ended) h hne
  rwa [List.nil_append] at hcut

theorem ended_append {s stop : String} (h : OneLine s) (hstop : OneLine stop)
    (hlast : stop.toList.getLast? ≠ some '\r') (hne : stop ≠ "") : Ended (s ++ stop) := by
  refine ⟨oneLine_append.2 ⟨h, hstop⟩, ?_⟩
  rwa [String.toList_append, List.getLast?_append_of_ne_nil _ (by simpa using hne)]

/-- Lines in brackets stay if nothing between the brackets has a line feed. -/
theorem cut_bracketed {opening closing : String} {texts : List String} (hopening : Ended opening)
    (hclosing : OneLine closing) (hne : closing ≠ "") (h : ∀ t ∈ texts, OneLine t) :
    cut (opening :: texts.map (fun t => "\t" ++ t ++ ",") ++ [closing])
      = opening :: texts.map (fun t => "\t" ++ t ++ ",") ++ [closing] := by
  refine cut_of_ended (List.forall_mem_cons.2 ⟨hopening, fun l hl => ?_⟩) hclosing hne
  obtain ⟨t, ht, rfl⟩ := List.mem_map.1 hl
  exact ended_append (oneLine_append.2 ⟨by decide, h t ht⟩) (by decide) (by decide) (by decide)

theorem cut_newSelfLines {before : String} {texts : List String} (hbefore : OneLine before)
    (h : ∀ t ∈ texts, OneLine t) : cut (newSelfLines before texts) = newSelfLines before texts := by
  unfold newSelfLines
  split
  · exact cut_singleton (oneLine_append.2 ⟨hbefore, by decide⟩) (by simp)
  · exact cut_bracketed (ended_append hbefore (by decide) (by decide) (by decide)) (by decide)
      (by decide) h

theorem cut_arrayLines {texts : List String} (h : ∀ t ∈ texts, OneLine t) :
    cut (arrayLines texts) = arrayLines texts := by
  unfold arrayLines
  split
  · decide
  · exact cut_bracketed ⟨by decide, by decide⟩ (by decide) (by decide) h

/-! ## Expressions -/

/-- No name of a value object has a line feed. -/
def PlainMapping (m : Mapping) : Prop :=
  OneLine m.className ∧ OneLine m.fromRaw.method ∧ OneLine m.toRaw.method

instance decidablePlainMapping : DecidablePred PlainMapping :=
  fun _ => inferInstanceAs (Decidable (_ ∧ _))

/-- No name that stands in the code for a column has a line feed. -/
def PlainColumn (c : Column) : Prop := OneLine c.name ∧ ∀ m ∈ c.valueObject, PlainMapping m

instance decidablePlainColumn : DecidablePred PlainColumn :=
  fun c => inferInstanceAs (Decidable (OneLine c.name ∧ ∀ m ∈ c.valueObject, PlainMapping m))

theorem oneLine_quoteString {s : String} (h : OneLine s) : OneLine (quoteString s) := by
  have hescape : ∀ l : List Char, '\n' ∉ l → '\n' ∉ escape l := by
    intro l hl
    induction l with
    | nil => exact hl
    | cons c rest ih =>
      rw [List.mem_cons, not_or] at hl
      unfold escape
      split <;> simp [hl.1, ih hl.2]
  unfold OneLine quoteString quote
  simpa using hescape _ h

theorem oneLine_field (c : Column) : OneLine c.field := not_mem_camel (by decide) c.name

theorem oneLine_use {className : String} (h : OneLine className) (i : Imports) :
    OneLine (i.use className).1 := by
  intro hm
  obtain hc | hm := (Imports.use_spec i className).mem_of_mem hm
  · revert hc
    decide
  · rw [trimLeadingBackslashes, toList_onChars] at hm
    exact h ((List.dropWhile_suffix _).subset hm)

theorem oneLine_callText {call : MethodCall} {classRef value : String}
    (hmethod : OneLine call.method) (href : OneLine classRef) (hvalue : OneLine value) :
    OneLine (Mapping.callText call classRef value) := by
  unfold Mapping.callText
  split
  · simp only [oneLine_append]
    exact ⟨⟨⟨⟨⟨href, by decide⟩, hmethod⟩, by decide⟩, hvalue⟩, by decide⟩
  · simp only [oneLine_append]
    exact ⟨⟨⟨hvalue, by decide⟩, hmethod⟩, by decide⟩

theorem lasting_oneLine_callReference {className : String} (h : OneLine className)
    (call : MethodCall) : Lasting (callReference className call) fun _ ref => OneLine ref := by
  unfold callReference
  cases call.kind with
  | onClass =>
    intro i hi
    refine ⟨(Imports.use_spec i className).sound hi, (Imports.use_spec i className).grows, ?_⟩
    exact fun _ _ _ => oneLine_use h i
  | onValue => exact .pure fun _ => by decide

theorem oneLine_entry {array key : String} (harray : OneLine array) (hkey : OneLine key) :
    OneLine (Expression.entry array key).text := by
  simp only [Expression.text_entry, oneLine_append]
  exact ⟨⟨⟨⟨by decide, harray⟩, by decide⟩, oneLine_quoteString hkey⟩, by decide⟩

theorem oneLine_ifSet {guard value : Expression} (hguard : OneLine guard.text)
    (hvalue : OneLine value.text) : OneLine (Expression.ifSet guard value).text := by
  simp only [Expression.text_ifSet, oneLine_append]
  exact ⟨⟨⟨⟨by decide, hguard⟩, by decide⟩, hvalue⟩, by decide⟩

theorem oneLine_unlessNull {guard value : Expression} (hguard : OneLine guard.text)
    (hvalue : OneLine value.text) : OneLine (Expression.unlessNull guard value).text := by
  simp only [Expression.text_unlessNull, oneLine_append]
  exact ⟨⟨hguard, by decide⟩, hvalue⟩

/-! ## Expressions of columns -/

theorem lasting_oneLine_fromRaw {c : Column} (hc : PlainColumn c) {raw : Expression}
    (hraw : OneLine raw.text) : Lasting (fromRaw c raw) fun _ e => OneLine e.text := by
  unfold fromRaw
  cases hm : c.valueObject with
  | some m =>
    obtain ⟨hclass, hmethod, -⟩ := hc.2 m hm
    refine (lasting_oneLine_callReference hclass m.fromRaw).bind fun ref => .pure fun i href => ?_
    rw [Expression.text_call]
    exact oneLine_callText hmethod href hraw
  | none =>
    refine .pure fun i => ?_
    cases c.scalar with
    | json =>
      simp only [Expression.text_decodeJson, oneLine_append]
      exact ⟨⟨by decide, hraw⟩, by decide⟩
    | datetime =>
      simp only [Expression.text_makeDate, oneLine_append]
      exact ⟨⟨by decide, hraw⟩, by decide⟩
    | _ =>
      simp only [Scalar.cast?, Expression.text_cast, oneLine_append]
      exact ⟨by decide, hraw⟩

theorem lasting_oneLine_hydrate {c : Column} (hc : PlainColumn c) :
    Lasting (hydrate c) fun _ e => OneLine e.text := by
  have hraw : OneLine (Expression.entry "row" c.name).text := oneLine_entry (by decide) hc.1
  unfold hydrate
  refine (lasting_oneLine_fromRaw hc hraw).bind fun value => .pure fun i hvalue => ?_
  split
  · exact oneLine_ifSet hraw hvalue
  · exact hvalue

theorem lasting_oneLine_toRaw? {format : String} (hformat : OneLine format) {c : Column}
    (hc : PlainColumn c) {value : Expression} (hvalue : OneLine value.text) :
    Lasting (toRaw? format c value) fun _ e? => OneLine (e?.getD value).text := by
  unfold toRaw?
  cases hm : c.valueObject with
  | some m =>
    obtain ⟨hclass, -, hmethod⟩ := hc.2 m hm
    refine (lasting_oneLine_callReference hclass m.toRaw).bind fun ref => .pure fun i href => ?_
    rw [Option.getD_some, Expression.text_call]
    exact oneLine_callText hmethod href hvalue
  | none =>
    refine .pure fun i => ?_
    cases c.scalar with
    | json =>
      simp only [Option.getD_some, Expression.text_encodeJson, oneLine_append]
      exact ⟨⟨by decide, hvalue⟩, by decide⟩
    | datetime =>
      simp only [Option.getD_some, Expression.text_formatDate, oneLine_append]
      exact ⟨⟨⟨hvalue, by decide⟩, oneLine_quoteString hformat⟩, by decide⟩
    | _ => exact hvalue

theorem lasting_oneLine_dehydrate {format : String} (hformat : OneLine format) {c : Column}
    (hc : PlainColumn c) : Lasting (dehydrate format c) fun _ e => OneLine e.text := by
  have hvalue : OneLine (Expression.field c.field).text := by
    simp only [Expression.text_field, oneLine_append]
    exact ⟨by decide, oneLine_field c⟩
  unfold dehydrate
  refine (lasting_oneLine_toRaw? hformat hc hvalue).bind fun converted => ?_
  cases converted with
  | none => exact .pure fun i _ => hvalue
  | some converted =>
    refine .pure fun i hconverted => ?_
    split
    · exact oneLine_unlessNull hvalue hconverted
    · exact hconverted

/-! ## Bodies -/

theorem Outline.laid_id {o : Outline} (harray : ∀ e ∈ o.arrayArguments, OneLine e.text)
    (hrow : ∀ e ∈ o.rowArguments, OneLine e.text)
    (hdatabase : ∀ e ∈ o.databaseEntries, OneLine e.1 ∧ OneLine e.2.text) : o.Laid id where
  fromArray := o.laid_cut.fromArray.trans (cut_newSelfLines (by decide) (List.forall_mem_map.2 harray))
  fromRow := by
    have hrow' := List.forall_mem_map.2 hrow
    rw [o.laid_cut.fromRow, cut_newSelfLines (by decide) hrow', cut_newSelfLines (by decide) hrow']
    rfl
  toDatabaseArray := by
    refine o.laid_cut.toDatabaseArray.trans (cut_arrayLines (List.forall_mem_map.2 fun e he => ?_))
    obtain ⟨hkey, hvalue⟩ := hdatabase e he
    exact oneLine_append.2 ⟨oneLine_append.2 ⟨oneLine_quoteString hkey, by decide⟩, hvalue⟩

theorem oneLine_apply (style : KeyStyle) {name : String} (h : OneLine name) :
    OneLine (style.apply name) := by
  cases style with
  | raw => exact h
  | camelCase => exact not_mem_camel (by decide) name
  | pascalCase => exact not_mem_pascal (by decide) name
  | snakeCase => exact not_mem_snake (by decide) (by decide) name

/-- Where no name has a line feed the bodies of a data class are cut between its expressions. -/
theorem laid_id_dataOutline {t : Table} (n : Names) {r : Rendering}
    (hcolumns : ∀ c ∈ t.columns, PlainColumn c) (hformat : OneLine r.datetimeFormat) :
    (dataOutline t n r).1.Laid id := by
  have hlines : Built t (fun _ _ e => OneLine e.text) (fun _ _ e => OneLine e.text)
      (dataOutline t n r).2 (dataOutline t n r).1 :=
    built_dataOutline (fun c hc => lasting_oneLine_hydrate (hcolumns c hc))
      fun c hc => lasting_oneLine_dehydrate hformat (hcolumns c hc)
  refine Outline.laid_id (fun e he => ?_) (fun e he => ?_) fun e he => ?_
  · rw [dataOutline_arrayArguments] at he
    obtain ⟨c, hc, rfl⟩ := List.mem_map.1 he
    exact oneLine_entry (by decide)
      (oneLine_apply r.keyStyle (hcolumns c (List.mem_of_mem_filter hc)).1)
  · obtain ⟨c, -, h⟩ := forall₂_exists hlines.rowArguments he
    exact h
  · obtain ⟨c, hc, hname, h⟩ := forall₂_exists hlines.databaseEntries he
    exact ⟨hname ▸ (hcolumns c (List.mem_of_mem_filter hc)).1, h⟩

theorem code_of_oneLine {line : String} (h : OneLine line) (hne : line ≠ "") :
    code line = [line] := by
  rw [code, lineTexts, lines_of_not_mem h (by simpa using hne), List.map_singleton,
    String.ofList_toList]

theorem body_toArray : Outline.toArray.body = ["return get_object_vars($this);"] := by
  have hline : OneLine "return get_object_vars($this);" := by decide
  unfold Outline.toArray
  dsimp only
  rw [code_of_oneLine hline (by decide)]

theorem body_getter (c : Column) (type : TypeRef) :
    (getter c type).body = ["return $this->" ++ c.field ++ ";"] := by
  have hline : OneLine ("return $this->" ++ c.field ++ ";") := by
    simp only [oneLine_append]
    exact ⟨⟨by decide, oneLine_field c⟩, by decide⟩
  unfold getter
  dsimp only
  rw [code_of_oneLine hline (by simp)]

theorem body_setter (c : Column) (type : TypeRef) :
    (setter c type).body
      = ["$this->" ++ c.field ++ " = $" ++ c.field ++ ";", "", "return $this;"] := by
  have hstored : Ended ("$this->" ++ c.field ++ " = $" ++ c.field ++ ";") := by
    refine ended_append ?_ (by decide) (by decide) (by decide)
    simp only [oneLine_append]
    exact ⟨⟨⟨by decide, oneLine_field c⟩, by decide⟩, oneLine_field c⟩
  have hlines : ∀ l ∈ ["$this->" ++ c.field ++ " = $" ++ c.field ++ ";", ""], Ended l :=
    List.forall_mem_cons.2 ⟨hstored, List.forall_mem_singleton.2 ⟨by decide, by decide⟩⟩
  have hlast : OneLine "return $this;" := by decide
  have hcut := cut_of_ended hlines hlast (by decide)
  unfold setter code
  dsimp only
  rw [List.cons_append, List.cons_append, List.nil_append] at hcut
  rw [← hcut]
  refine congrArg lineTexts ?_
  apply String.toList_injective
  simp

end TableClasses.Classes
