import Mathlib.Data.List.TakeWhile
import TableClasses.Proofs.DistinctKeys
import TableClasses.Proofs.Numerals
import TableClasses.Proofs.Plans
import TableClasses.Proofs.Tables

/-!
# Tables of a catalog

Normalizing a catalog is a filter. `keeps` tells which columns stay and `isTable` which tables do;
`columnAlone` and `tableAlone` are the results of one entry by itself. The step lemma says what
`keepColumn` adds to the columns kept so far, with the mapper as it was at the start; by induction a
table gives its kept columns in order.

A marked column becomes the key before it is known whether the column is kept, and gives the key back
if it is not. The key that is given back may only be the column's own. This is so as long as no name
comes twice: then the key is a name that came before, so a column that finds its own name there has
just put it there. The key in the end is the first column that is kept and marked.
-/

namespace TableClasses.Schema

open TableClasses.Text TableClasses.Naming TableClasses.Decimal TableClasses.ValueObject

/-! ## What stays -/

/-- Whether a value names a data type: a number, or a text that is not blank. -/
def namesType : Json → Bool
  | .number _ => true
  | .string s => !isAllBlank s
  | _ => false

/-- The text of a number, or of a string without blanks around it. -/
def scalarText : Json → String
  | .number n => n.text
  | .string s => trimBlanks s
  | _ => ""

/-- Whether the column of a value is kept. -/
def keeps (v : Json) : Bool :=
  match catalogLayout.decode v with
  | .ok r => namesType r.dataType
  | .error _ => false

/-- Whether a value is the key mark, blanks around it not counted. -/
def isKeyMark : Json → Bool
  | .string s => trimBlanks s == "PRI"
  | _ => false

/-- Whether the column of a value is marked as part of the primary key. -/
def marksKey (v : Json) : Bool :=
  match catalogLayout.decode v with
  | .ok r => isKeyMark r.key
  | .error _ => false

/-- The columns in the record of a table. -/
def tableColumns (v : Json) : Entries Json := entriesIn (v.field? "columns")

/-- The columns of a table's record that are kept. -/
def keptColumns (v : Json) : Entries Json := (tableColumns v).filter fun e => keeps e.2

/-- The first of the kept columns that is marked. -/
def firstMarked (v : Json) : Option String :=
  ((keptColumns v).find? fun c => marksKey c.2).map (·.1)

/-- The key after one more entry: a marked column takes it if it is free, and a column that is not
kept leaves it. What is no record does neither. -/
def keyAfter (key : Option String) (e : String × Json) : Option String :=
  match catalogLayout.decode e.2 with
  | .error _ => key
  | .ok r =>
    let taken := key <|> if isKeyMark r.key then some e.1 else none
    if namesType r.dataType then taken else if taken = some e.1 then none else taken

/-- The key after all columns of a table's record. -/
def keyOf (v : Json) : Option String := (tableColumns v).foldl keyAfter none

/-- Whether a catalog entry becomes a table. -/
def isTable (e : String × Json) : Bool :=
  e.1 != "phinxlog" && !(keptColumns e.2).isEmpty
    && decide ((keptColumns e.2).map fun c => lowerText (camel c.1)).Nodup

section
variable (overlay : Option Overlay) (m : Mapper)

/-- The column of an entry, by itself. -/
def columnAlone (table : String) (e : String × Json) : Option Column :=
  match catalogLayout.decode e.2 with
  | .ok r => (recordColumn overlay table e.1 false r m).value.1
  | .error _ => none

/-- The table of a catalog entry, by itself. -/
def tableAlone (e : String × Json) : Table :=
  { name := e.1
    columns := (keptColumns e.2).filterMap (columnAlone overlay m e.1)
    primaryKey := keyOf e.2 }

/-- The tables of a catalog's entries. -/
def tablesAlone (es : Entries Json) : List Table := (es.filter isTable).map (tableAlone overlay m)

/-- The table of the columns that are kept, with the first marked one as its key. -/
def keptTable (e : String × Json) : Table :=
  { name := e.1
    columns := (keptColumns e.2).filterMap (columnAlone overlay m e.1)
    primaryKey := firstMarked e.2 }

/-- A catalog's entries that become tables, each with the columns that are kept. -/
def keptTables (es : Entries Json) : List Table := (es.filter isTable).map (keptTable overlay m)

end

/-- A table's record without the columns that are dropped. -/
def prune (e : String × Json) : String × Json :=
  (e.1, .object [("columns", .object (keptColumns e.2))])

/-! ## Texts of facts -/

theorem trimBlanks_of_isAllBlank {s : String} (h : isAllBlank s) : trimBlanks s = "" := by
  have hdrop : s.toList.dropWhile isBlank = [] := by
    rw [List.dropWhile_eq_nil_iff]
    exact List.all_eq_true.1 h
  simp [trimBlanks, onChars, trim, trimStart, hdrop]

theorem textOf?_eq (v : Json) : textOf? v = if namesType v then some (scalarText v) else none := by
  cases v with
  | string s => by_cases h : isAllBlank s <;> simp [textOf?, namesType, scalarText, h]
  | _ => rfl

theorem isSome_textOf? (v : Json) : (textOf? v).isSome = namesType v := by
  rw [textOf?_eq]
  cases namesType v <;> rfl

/-- Whether a character may stand in the text of a number. -/
def isNumeral (c : Char) : Bool :=
  c.isDigit || ['+', '-', '.', 'e', 'N', 'a', 'i', 'n', 'f'].contains c

theorem isNumeral_of_all {s : List Char} (h : s.all isNumeral = true) : ∀ c ∈ s, isNumeral c :=
  List.all_eq_true.1 h

theorem isNumeral_of_isDigit {s : List Char} (h : ∀ c ∈ s, c.isDigit = true) :
    ∀ c ∈ s, isNumeral c := by
  intro c hc
  simp [isNumeral, h c hc]

theorem isNumeral_signText (s : Bool) : ∀ c ∈ signText s, isNumeral c := by
  cases s <;> exact isNumeral_of_all (by decide)

theorem isNumeral_scientific (d : Digits) : ∀ c ∈ d.scientific, isNumeral c := by
  have hdigits := isNumeral_of_isDigit (isDigit_toDigits d.digits)
  simp only [Digits.scientific, List.forall_mem_append]
  refine ⟨⟨?_, ?_⟩, isNumeral_of_isDigit (isDigit_toDigits _)⟩
  · split
    · simp
    · next c hs => rwa [hs] at hdigits
    · next c cs hs =>
      rw [hs, List.forall_mem_cons] at hdigits
      exact List.forall_mem_cons.2 ⟨hdigits.1, List.forall_mem_cons.2 ⟨by decide, hdigits.2⟩⟩
  · split <;> exact isNumeral_of_all (by decide)

theorem isNumeral_documentChars (x : Binary64) : ∀ c ∈ documentChars x, isNumeral c := by
  cases x with
  | nan => exact isNumeral_of_all (by decide)
  | infinite s =>
    exact List.forall_mem_append.2 ⟨isNumeral_signText s, isNumeral_of_all (by decide)⟩
  | finite s m e =>
    simp only [documentChars, List.forall_mem_append]
    refine ⟨isNumeral_signText s, ?_⟩
    split
    · exact isNumeral_of_all (by decide)
    · split
      · have hd := (shortest .toEven m e).isDigit_positional
        simp only [List.forall_mem_append]
        refine ⟨⟨isNumeral_of_isDigit hd.1, isNumeral_of_all (by decide)⟩, ?_⟩
        split
        · exact isNumeral_of_all (by decide)
        · exact isNumeral_of_isDigit hd.2
      · exact isNumeral_scientific _

theorem isNumeral_text (n : Number) : ∀ c ∈ n.text.toList, isNumeral c := by
  cases n with
  | int i =>
    simp only [Number.text, Int.toString_eq_repr, Int.repr_eq_if]
    split
    · simpa using isNumeral_of_isDigit (isDigit_toDigits _)
    · simp only [String.toList_append, List.forall_mem_append]
      exact ⟨isNumeral_of_all (by decide), by simpa using isNumeral_of_isDigit (isDigit_toDigits _)⟩
  | float x => simpa [Number.text, Binary64.documentText] using isNumeral_documentChars x

theorem textOf?_eq_key (v : Json) : (textOf? v == some "PRI") = isKeyMark v := by
  cases v with
  | string s =>
    by_cases h : isAllBlank s
    · simp [textOf?, isKeyMark, h, trimBlanks_of_isAllBlank h]
    · simp [textOf?, isKeyMark, h]
  | number n =>
    have h : n.text ≠ "PRI" := by
      intro he
      have := isNumeral_text n 'P' (by rw [he]; decide)
      revert this
      decide
    simp [textOf?, isKeyMark, h]
  | _ => rfl

/-! ## Columns by themselves -/

/-- The columns kept so far after one more entry, of which its column is kept if there is one. -/
def Kept.add (kept : Kept) (e : String × Json) (column? : Option Column) : Kept :=
  { columns := kept.columns ++ column?.toList
    key := keyAfter kept.key e }

variable (overlay : Option Overlay) (table : String)

theorem columnAlone_of_alike {m m' : Mapper} (h : m.Alike m') (e : String × Json) :
    columnAlone overlay m table e = columnAlone overlay m' table e := by
  unfold columnAlone
  split
  · exact (steady_recordColumn overlay table _ _ _).value h
  · rfl

theorem recordColumn_value (name : String) (readOnly : Bool) (r : Record) (m : Mapper) :
    (recordColumn overlay table name readOnly r m).value.1
      = (textOf? r.dataType).map fun dataType =>
          (columnOf overlay table (sourceOf name dataType readOnly r).value m).value.1 := by
  unfold recordColumn
  cases textOf? r.dataType with
  | none =>
    simp only [bind_apply, lift_apply, pure_apply, Warned.value_bind, Warned.value_pure,
      Option.map_none]
  | some dataType =>
    simp only [bind_apply, lift_apply, pure_apply, Warned.value_bind, Warned.value_pure,
      Option.map_some]

theorem isSome_columnAlone (m : Mapper) (e : String × Json) :
    (columnAlone overlay m table e).isSome = keeps e.2 := by
  unfold columnAlone keeps
  split
  · rw [recordColumn_value, Option.isSome_map, isSome_textOf?]
  · rfl

theorem name_columnOf (s : Source) (m : Mapper) :
    (columnOf overlay table s m).value.1.name = s.name := by
  unfold columnOf
  simp only [bind_apply, pure_apply, Warned.value_bind, Warned.value_pure]

theorem name_of_columnAlone {m : Mapper} {e : String × Json} {c : Column}
    (h : columnAlone overlay m table e = some c) : c.name = e.1 := by
  unfold columnAlone at h
  split at h
  · rw [recordColumn_value, Option.map_eq_some_iff] at h
    obtain ⟨dataType, -, rfl⟩ := h
    rw [name_columnOf]
    rfl
  · cases h

/-! ## One more column -/

theorem isKey_eq (r : Record) : isKey r = isKeyMark r.key := textOf?_eq_key r.key

theorem recordOf_value (layout : Layout) (name : String) (v : Json) :
    (recordOf layout table name v).value = (layout.decode v).toOption := by
  unfold recordOf
  cases layout.decode v <;> rfl

theorem Kept.mark_value (name : String) (r : Record) (kept : Kept) :
    (kept.mark table name r).value =
      { kept with key := kept.key <|> if isKeyMark r.key then some name else none } := by
  obtain ⟨columns, key⟩ := kept
  unfold Kept.mark
  rw [isKey_eq]
  cases key <;> cases isKeyMark r.key <;> rfl

theorem Kept.unmark_eq (name : String) (kept : Kept) :
    kept.unmark name =
      { kept with key := if kept.key = some name then none else kept.key } := by
  unfold Kept.unmark
  split <;> rfl

theorem steady_keepColumn (kept : Kept) (e : String × Json) :
    Steady (keepColumn overlay table kept e) := by
  unfold keepColumn
  refine (Steady.lift _).bind fun record => ?_
  cases record with
  | none => exact .pure kept
  | some r =>
    refine (Steady.lift _).bind fun kept => ?_
    refine (steady_recordColumn overlay table _ _ r).bind fun column => ?_
    cases column with
    | none => exact .pure _
    | some c => exact .pure _

/-- The step: an entry adds its own column, if it has one. -/
theorem keepColumn_value (kept : Kept) (e : String × Json) (m : Mapper) :
    (keepColumn overlay table kept e m).value.1
      = kept.add e (columnAlone overlay m table e) := by
  obtain ⟨name, v⟩ := e
  unfold keepColumn columnAlone Kept.add keyAfter
  simp only [bind_apply, lift_apply, Warned.value_bind, Warned.value_pure, recordOf_value]
  cases catalogLayout.decode v with
  | error fault =>
    simp only [Option.toList_none, List.append_nil]
    rfl
  | ok r =>
    simp only [Except.toOption, bind_apply, lift_apply, Warned.value_bind, Warned.value_pure,
      Kept.mark_value, recordColumn_value, ← isSome_textOf?]
    cases textOf? r.dataType with
    | none =>
      simp only [Option.map_none, pure_apply, Warned.value_pure, Kept.unmark_eq,
        Option.toList_none, List.append_nil, Option.isSome_none, Bool.false_eq_true, if_false]
    | some dataType =>
      simp only [Option.map_some, pure_apply, Warned.value_pure, Option.toList_some,
        Option.isSome_some, if_true]

/-! ## All columns of a table -/

theorem alike_keepColumn (kept : Kept) (e : String × Json) (m : Mapper) :
    m.Alike (keepColumn overlay table kept e m).value.2 :=
  (steady_keepColumn overlay table kept e).alike m

/-- The run: the columns of all entries, and the key that they leave. -/
theorem foldlM_keepColumn_value (kept : Kept) (es : Entries Json) (m : Mapper) :
    (es.foldlM (keepColumn overlay table) kept m).value.1 =
      { columns := kept.columns ++ es.filterMap (columnAlone overlay m table)
        key := es.foldl keyAfter kept.key } := by
  induction es generalizing kept m with
  | nil => simp [pure_apply]
  | cons e rest ih =>
    have halike := alike_keepColumn overlay table kept e m
    have hrest : columnAlone overlay (keepColumn overlay table kept e m).value.2 table
        = columnAlone overlay m table :=
      funext fun e => (columnAlone_of_alike overlay table halike e).symm
    rw [List.foldlM_cons, bind_apply, Warned.value_bind, ih, hrest, keepColumn_value]
    cases hcolumn : columnAlone overlay m table e with
    | none => simp [Kept.add, hcolumn]
    | some c => simp [Kept.add, hcolumn]

/-! ## The key -/

/-- A key is a name that was the key before, or that of a column that is kept. -/
theorem keyAfter_eq_some {key : Option String} {e : String × Json} {k : String}
    (h : keyAfter key e = some k) : key = some k ∨ keeps e.2 = true ∧ e.1 = k := by
  unfold keyAfter at h
  unfold keeps
  cases hdecode : catalogLayout.decode e.2 with
  | error fault =>
    rw [hdecode] at h
    exact .inl h
  | ok r =>
    rw [hdecode] at h
    cases key <;> cases hmark : isKeyMark r.key <;> cases htype : namesType r.dataType <;>
      simp_all

/-- A column that does not find its own name as the key takes the key if it is free and the column is
kept and marked. A column that is not kept leaves no trace. -/
theorem keyAfter_of_ne {key : Option String} {e : String × Json} (h : key ≠ some e.1) :
    keyAfter key e = (key <|> if keeps e.2 && marksKey e.2 then some e.1 else none) := by
  unfold keyAfter keeps marksKey
  cases catalogLayout.decode e.2 with
  | error fault => cases key <;> rfl
  | ok r =>
    by_cases hmark : isKeyMark r.key <;> by_cases htype : namesType r.dataType <;> cases key <;>
      simp_all

/-- Where no name comes twice, the key is the first column that is kept and marked. The invariant is
that the key so far is no name that is still to come. -/
theorem foldl_keyAfter {es : Entries Json} (hes : es.keys.Nodup) {key : Option String}
    (hkey : ∀ k ∈ key, k ∉ es.keys) :
    es.foldl keyAfter key
      = (key <|> ((es.filter fun e => keeps e.2).find? fun e => marksKey e.2).map (·.1)) := by
  induction es generalizing key with
  | nil => simp
  | cons e rest ih =>
    obtain ⟨hnew, hrest⟩ := List.nodup_cons.1 hes
    have hne : key ≠ some e.1 := fun he => hkey _ he List.mem_cons_self
    have hafter : ∀ k ∈ keyAfter key e, k ∉ Entries.keys rest := by
      intro k hk
      obtain hbefore | ⟨-, rfl⟩ := keyAfter_eq_some hk
      · exact fun hm => hkey k hbefore (List.mem_cons_of_mem _ hm)
      · exact hnew
    rw [List.foldl_cons, ih hrest hafter, keyAfter_of_ne hne]
    by_cases hkeeps : keeps e.2 <;> by_cases hmark : marksKey e.2 <;> cases key <;>
      simp [hkeeps, hmark]

theorem keyOf_eq_firstMarked {v : Json} (h : (tableColumns v).keys.Nodup) :
    keyOf v = firstMarked v := by
  unfold keyOf
  rw [foldl_keyAfter h (by simp)]
  rfl

/-- The key is one of the columns that are kept. -/
theorem mem_of_keyOf {v : Json} {k : String} (h : keyOf v = some k) :
    k ∈ (keptColumns v).map (·.1) := by
  have hrun : ∀ (es : Entries Json) key, es.foldl keyAfter key = some k →
      key = some k ∨ k ∈ (es.filter fun e => keeps e.2).map (·.1) := by
    intro es
    induction es with
    | nil => exact fun key hkey => .inl hkey
    | cons e rest ih =>
      intro key hkey
      obtain hafter | hmem := ih _ hkey
      · obtain hbefore | ⟨hkeeps, rfl⟩ := keyAfter_eq_some hafter
        · exact .inl hbefore
        · exact .inr (List.mem_map_of_mem (List.mem_filter.2 ⟨List.mem_cons_self, hkeeps⟩))
      · exact .inr ((((List.sublist_cons_self e rest).filter _).map _).subset hmem)
  exact (hrun _ _ h).resolve_left nofun

theorem filterMap_columnAlone (m : Mapper) (es : Entries Json) :
    (es.filter fun e => keeps e.2).filterMap (columnAlone overlay m table)
      = es.filterMap (columnAlone overlay m table) := by
  rw [List.filterMap_filter]
  refine List.filterMap_congr fun e _ => ?_
  split
  · rfl
  · next h =>
    rw [← isSome_columnAlone overlay table m e, Option.not_isSome_iff_eq_none] at h
    exact h.symm

theorem map_name_filterMap (m : Mapper) (es : Entries Json) :
    (es.filterMap (columnAlone overlay m table)).map (·.name)
      = (es.filter fun e => keeps e.2).map (·.1) := by
  induction es with
  | nil => rfl
  | cons e rest ih =>
    have hkeeps := isSome_columnAlone overlay table m e
    cases hcolumn : columnAlone overlay m table e with
    | none =>
      rw [hcolumn] at hkeeps
      simpa [hcolumn, ← hkeeps] using ih
    | some c =>
      rw [hcolumn] at hkeeps
      simpa [hcolumn, ← hkeeps, name_of_columnAlone overlay table hcolumn] using ih

/-! ## Tables -/

theorem tableOf_value (columns : List Column) (key : Option String) :
    (tableOf table columns key).value
      = if columns.isEmpty then none else (Table.make table columns key).toOption := by
  unfold tableOf
  split
  · rfl
  · cases Table.make table columns key <;> rfl

theorem keeps_of_mem_keptColumns {v : Json} {c : String × Json} (h : c ∈ keptColumns v) :
    keeps c.2 = true :=
  (List.mem_filter.1 h).2

theorem names_tableAlone (m : Mapper) (e : String × Json) :
    (tableAlone overlay m e).columns.map (·.name) = (keptColumns e.2).map (·.1) := by
  unfold tableAlone keptColumns
  rw [filterMap_columnAlone, map_name_filterMap]

theorem fieldKeys_tableAlone (m : Mapper) (e : String × Json) :
    (tableAlone overlay m e).columns.map Column.fieldKey
      = (keptColumns e.2).map fun c => lowerText (camel c.1) := by
  have hnames := congrArg (List.map fun name => lowerText (camel name))
    (names_tableAlone overlay m e)
  rw [List.map_map, List.map_map] at hnames
  exact hnames

theorem isEmpty_tableAlone (m : Mapper) (e : String × Json) :
    (tableAlone overlay m e).columns.isEmpty = (keptColumns e.2).isEmpty := by
  have hnames := congrArg List.isEmpty (names_tableAlone overlay m e)
  simpa only [List.isEmpty_map] using hnames

theorem key_of_tableAlone {m : Mapper} {e : String × Json} {key : String}
    (h : (tableAlone overlay m e).primaryKey = some key) :
    ∃ c ∈ (tableAlone overlay m e).columns, c.name = key := by
  rw [← List.mem_map, names_tableAlone]
  exact mem_of_keyOf h

/-- Columns by themselves make a table exactly where their fields differ. -/
theorem make_tableAlone (m : Mapper) (e : String × Json) :
    (Table.make e.1 (tableAlone overlay m e).columns (tableAlone overlay m e).primaryKey).toOption
      = if ((keptColumns e.2).map fun c => lowerText (camel c.1)).Nodup
        then some (tableAlone overlay m e) else none := by
  have hkey : ∀ key ∈ (tableAlone overlay m e).primaryKey,
      ∃ c ∈ (tableAlone overlay m e).columns, c.name = key :=
    fun key hkey => key_of_tableAlone overlay hkey
  rw [Table.toOption_make hkey, fieldKeys_tableAlone]
  rfl

theorem steady_catalogTable (e : String × Json) : Steady (catalogTable overlay e) := by
  obtain ⟨name, v⟩ := e
  unfold catalogTable
  by_cases hname : name = housekeepingTable
  · simp only [if_pos hname]
    exact .pure none
  · simp only [if_neg hname]
    split
    · refine (Steady.foldlM (steady_keepColumn overlay name) _ _).bind fun kept => ?_
      exact .lift _
    · exact .pure none

/-- The columns of a table's record give the columns and the key of its table. -/
theorem foldlM_columns_value {v : Json} {columns : Entries Json}
    (h : v.field? "columns" = some (.object columns)) (m : Mapper) :
    (columns.foldlM (keepColumn overlay table) {} m).value.1 =
      { columns := (tableAlone overlay m (table, v)).columns
        key := (tableAlone overlay m (table, v)).primaryKey } := by
  have hcolumns : tableColumns v = columns := congrArg entriesIn h
  rw [foldlM_keepColumn_value]
  unfold tableAlone keptColumns keyOf
  rw [hcolumns, filterMap_columnAlone, List.nil_append]

theorem catalogTable_value (e : String × Json) (m : Mapper) :
    (catalogTable overlay e m).value.1
      = if isTable e then some (tableAlone overlay m e) else none := by
  have hempty := isEmpty_tableAlone overlay m e
  have hmake := make_tableAlone overlay m e
  obtain ⟨name, v⟩ := e
  unfold catalogTable isTable
  by_cases hname : name = housekeepingTable
  · have hbne : (name != "phinxlog") = false := bne_eq_false_iff_eq.2 hname
    simp only [if_pos hname, hbne, Bool.false_and, pure_apply, Warned.value_pure]
    rfl
  · have hbne : (name != "phinxlog") = true := bne_iff_ne.2 hname
    simp only [if_neg hname, hbne, Bool.true_and]
    cases hcolumns : v.field? "columns" with
    | none => simp [keptColumns, tableColumns, entriesIn, hcolumns, pure_apply]
    | some found =>
      cases found with
      | object columns =>
        simp only [bind_apply, lift_apply, Warned.value_bind, Warned.value_pure, tableOf_value,
          foldlM_columns_value overlay name hcolumns, hempty, hmake]
        by_cases hnone : (keptColumns v).isEmpty <;> simp [hnone]
      | _ => simp [keptColumns, tableColumns, entriesIn, hcolumns, pure_apply]

/-! ## Documents -/

theorem catalogTables_value (m : Mapper) (es : Entries Json) :
    (catalogTables overlay es m).value.1 = tablesAlone overlay m es := by
  unfold catalogTables tablesAlone
  simp only [bind_apply, pure_apply, Warned.value_bind, Warned.value_pure,
    Steady.value_mapM (steady_catalogTable overlay), catalogTable_value]
  induction es with
  | nil => rfl
  | cons e rest ih => by_cases h : isTable e <;> simpa [h] using ih

theorem normalize_catalog {doc : Json} {root : Entries Json} (m : Mapper)
    (h : shapeOf doc = .ok (.catalog, root)) :
    (normalize overlay m doc).map (fun w => w.value.1)
      = (catalogEntries root).map (tablesAlone overlay m) := by
  rw [normalize_eq, planOf_catalog h]
  cases catalogEntries root with
  | error fault => rfl
  | ok es =>
    show Except.ok (catalogTables overlay es m).value.1 = _
    rw [catalogTables_value]
    rfl

/-! ## Documents without repeated names -/

theorem unique_tableColumns {v : Json} (h : v.Distinct) :
    (tableColumns v).Unique Json.Distinct := by
  unfold tableColumns entriesIn
  split
  · next columns hfield =>
    cases v with
    | object fields =>
      exact Json.distinct_object_iff.1 ((Json.distinct_object_iff.1 h).of_get? hfield)
    | _ => cases hfield
  · exact .nil

theorem tableAlone_eq_keptTable (m : Mapper) {e : String × Json} (h : e.2.Distinct) :
    tableAlone overlay m e = keptTable overlay m e := by
  unfold tableAlone keptTable
  rw [keyOf_eq_firstMarked (unique_tableColumns h).keys]

theorem tablesAlone_eq_keptTables (m : Mapper) {es : Entries Json} (h : ∀ e ∈ es, e.2.Distinct) :
    tablesAlone overlay m es = keptTables overlay m es :=
  List.map_congr_left fun e he => tableAlone_eq_keptTable overlay m (h e (List.mem_of_mem_filter he))

theorem keptColumns_prune (e : String × Json) : keptColumns (prune e).2 = keptColumns e.2 := by
  show (keptColumns e.2).filter (fun c => keeps c.2) = keptColumns e.2
  exact List.filter_eq_self.2 fun c hc => keeps_of_mem_keptColumns hc

/-- Dropped columns could as well not be there. -/
theorem keptTables_prune (m : Mapper) (es : Entries Json) :
    keptTables overlay m (es.map prune) = keptTables overlay m es := by
  have hkeeps : isTable ∘ prune = isTable := by
    funext e
    unfold isTable
    simp only [Function.comp, keptColumns_prune]
    rfl
  have htable : keptTable overlay m ∘ prune = keptTable overlay m := by
    funext e
    unfold keptTable firstMarked
    simp only [Function.comp, keptColumns_prune]
    rfl
  unfold keptTables
  rw [List.filter_map, List.map_map, hkeeps, htable]

theorem distinct_prune {e : String × Json} (h : e.2.Distinct) : (prune e).2.Distinct := by
  have hcolumns := unique_tableColumns h
  have hkept : (Json.object (keptColumns e.2)).Distinct :=
    .object (hcolumns.keys.sublist (List.filter_sublist.map _)) fun c hc =>
      hcolumns.values c (List.mem_of_mem_filter hc)
  exact .object (List.nodup_singleton _) (List.forall_mem_singleton.2 hkept)

/-- A catalog gives exactly the tables that stay, in their order and each with the columns that
stay, the first marked one of which is the key. What is dropped from its records could as well be
missing. -/
theorem normalize_catalog_eq_filter (m : Mapper) {doc : Json} (hdoc : doc.Distinct)
    {root : Entries Json} (h : shapeOf doc = .ok (.catalog, root)) :
    (normalize overlay m doc).map (fun w => w.value.1) =
        (match root.get? "tables" with
          | none => .ok (keptTables overlay m root)
          | some (.object tables) => .ok (keptTables overlay m tables)
          | some _ => .error .tablesNotMapping) ∧
      (∀ e : String × Json,
        (keptTable overlay m e).columns.map (·.name) = (keptColumns e.2).map (·.1)) ∧
      ∀ tables : Entries Json, (Json.object tables).Distinct →
        (normalize overlay m (.object [("tables", .object (tables.map prune))])).map
            (fun w => w.value.1)
          = (normalize overlay m (.object [("tables", .object tables)])).map
            fun w => w.value.1 := by
  have hroot : root.Unique Json.Distinct := by
    cases doc with
    | object es =>
      obtain rfl : es = root := congrArg Prod.snd (Except.ok.inj h)
      exact Json.distinct_object_iff.1 hdoc
    | _ => cases h
  refine ⟨?_, names_tableAlone overlay m, fun tables htables => ?_⟩
  · rw [normalize_catalog overlay m h]
    unfold catalogEntries
    cases hfound : root.get? "tables" with
    | none => exact congrArg Except.ok (tablesAlone_eq_keptTables overlay m hroot.values)
    | some found =>
      cases found with
      | object tables =>
        have htables := Json.distinct_object_iff.1 (hroot.of_get? hfound)
        exact congrArg Except.ok (tablesAlone_eq_keptTables overlay m htables.values)
      | _ => rfl
  · have hshape : ∀ es : Entries Json, shapeOf (.object [("tables", .object es)])
        = .ok (.catalog, [("tables", .object es)]) := fun es => rfl
    have hwrapped := fun es => normalize_catalog overlay m (hshape es)
    have hvalues := (Json.distinct_object_iff.1 htables).values
    have hpruned : ∀ e ∈ tables.map prune, e.2.Distinct := by
      intro e he
      obtain ⟨e', he', rfl⟩ := List.mem_map.1 he
      exact distinct_prune (hvalues e' he')
    rw [hwrapped, hwrapped]
    show Except.ok (tablesAlone overlay m (tables.map prune)) = .ok (tablesAlone overlay m tables)
    rw [tablesAlone_eq_keptTables overlay m hpruned, tablesAlone_eq_keptTables overlay m hvalues,
      keptTables_prune]

/-- A catalog in which a marked column without a type, a column that is no record and a further
marked column stand around the key. -/
def mixedCatalog : Entries Json :=
  [("phinxlog", .object [("columns", .object [("a", .object [("DATA_TYPE", .string "int")])])]),
   ("orders", .object [("columns", .object
     [("old_id", .object [("COLUMN_KEY", .string "PRI")]),
      ("note", .bool true),
      ("id", .object [("DATA_TYPE", .string "int"), ("COLUMN_KEY", .string " PRI ")]),
      ("part", .object [("DATA_TYPE", .string "int"), ("COLUMN_KEY", .string "PRI")])])]),
   ("pairs", .object [("columns", .object
     [("a_b", .object [("DATA_TYPE", .string "int")]),
      ("aB", .object [("DATA_TYPE", .string "int")])])])]

theorem distinct_mixedCatalog : (Json.object mixedCatalog).Distinct := by
  simp [mixedCatalog, Json.distinct_object_iff, Entries.unique_iff, Entries.keys,
    Json.Distinct.string, Json.Distinct.bool]

theorem normalize_mixedCatalog :
    ((normalize none (.ofCatalog []) (.object mixedCatalog)).map (fun w => w.value.1)).map
        (List.map fun t => (t.name, t.columns.map (·.name), t.primaryKey))
      = .ok [("orders", ["id", "part"], some "id")] ∧
    (normalize none (.ofCatalog []) (.object [("tables", .object (mixedCatalog.map prune))])).map
        (fun w => w.value.1)
      = (normalize none (.ofCatalog []) (.object [("tables", .object mixedCatalog)])).map
          fun w => w.value.1 := by
  have hshape : shapeOf (.object mixedCatalog) = .ok (.catalog, mixedCatalog) := rfl
  obtain ⟨htables, -, hpruned⟩ :=
    normalize_catalog_eq_filter none (.ofCatalog []) distinct_mixedCatalog hshape
  refine ⟨?_, hpruned mixedCatalog distinct_mixedCatalog⟩
  rw [htables]
  refine congrArg Except.ok (?_ : (keptTables none (.ofCatalog []) mixedCatalog).map _ = _)
  decide +kernel

end TableClasses.Schema
