import TableClasses.Proofs.Drafts

/-!
# The table of a grouped document

A grouped document gives one table or none. Its columns are those of the read-only group and then
those of the read-write group, each group without what is no column; nothing else of the groups
matters. `areTable` tells whether there is a table, and the main theorem gives it: which columns it
has, in which order, which of them are read-only, and what becomes of the key.
-/

namespace TableClasses.Schema

open TableClasses.Text TableClasses.Naming TableClasses.ValueObject

/-! ## What stays -/

/-- Whether the column of a value is kept. -/
def keepsGrouped (v : Json) : Bool :=
  match groupedLayout.decode v with
  | .ok r => namesType r.dataType
  | .error _ => false

/-- The columns of a group that are kept. A group that is no mapping has none. -/
def keptGroup (groups : Entries Json) (name : String) : Entries Json :=
  match groups.get? name with
  | some (.object columns) => columns.filter fun e => keepsGrouped e.2
  | _ => []

/-- Whether kept columns make a table: there are any, none is in both groups, and fields differ in
more than case. -/
def areTable (readOnly readWrite : Entries Json) : Bool :=
  !(readOnly ++ readWrite).isEmpty && readOnly.all (fun e => !Entries.has readWrite e.1)
    && decide ((readOnly ++ readWrite).map fun e => lowerText (camel e.1)).Nodup

/-- The options of an entry: those of the overlay if there is one, or else those in its comment. -/
def optionsAt (overlay : Option Overlay) (table : String) (e : String × Json) : Options :=
  match overlay with
  | some o => o.column table e.1
  | none =>
    match groupedLayout.decode e.2 with
    | .ok r => ((textOf? r.comment).map fun c => (Options.ofComment c).value).getD {}
    | .error _ => {}

section
variable (overlay : Option Overlay) (m : Mapper) (table : String)

/-- The column of an entry, by itself. -/
def groupedColumn (readOnly : Bool) (e : String × Json) : Option Column :=
  (sourceIn groupedLayout readOnly e).map fun s => s.column m (s.options overlay table)

/-- The table of the columns of both groups. -/
def tableOfGroups (key : Option String) (readOnly readWrite : Entries Json) : Table :=
  { name := table
    columns := readOnly.filterMap (groupedColumn overlay m table true)
      ++ readWrite.filterMap (groupedColumn overlay m table false)
    primaryKey := key.filter fun k => ((readOnly ++ readWrite).map (·.1)).contains k }

/-! ## Columns -/

theorem isSome_sourceIn (readOnly : Bool) (e : String × Json) :
    (sourceIn groupedLayout readOnly e).isSome = keepsGrouped e.2 := by
  unfold sourceIn keepsGrouped
  cases groupedLayout.decode e.2 with
  | error fault => rfl
  | ok r => rw [Option.isSome_map, isSome_textOf?]

theorem options_of_sourceIn {readOnly : Bool} {e : String × Json} {s : Source}
    (h : sourceIn groupedLayout readOnly e = some s) :
    s.options overlay table = optionsAt overlay table e := by
  have hname := name_of_sourceIn h
  unfold sourceIn at h
  unfold Source.options optionsOf optionsAt
  cases overlay with
  | some o =>
    simp only [Warned.value_pure, hname]
  | none =>
    cases hdecode : groupedLayout.decode e.2 with
    | error fault =>
      rw [hdecode] at h
      cases h
    | ok r =>
      rw [hdecode] at h
      obtain ⟨dataType, -, rfl⟩ := Option.map_eq_some_iff.1 h
      have hcomment : (sourceOf e.1 dataType readOnly r).value.comment = textOf? r.comment := rfl
      simp only [hcomment]
      cases textOf? r.comment <;> rfl

/-- Every kept entry says something of its column. -/
theorem forall₂_sourceIn (readOnly : Bool) {es : Entries Json} (h : ∀ e ∈ es, keepsGrouped e.2) :
    List.Forall₂ (fun e s => sourceIn groupedLayout readOnly e = some s) es
      (es.filterMap (sourceIn groupedLayout readOnly)) := by
  induction es with
  | nil => exact .nil
  | cons e rest ih =>
    rw [List.forall_mem_cons] at h
    have hsome := isSome_sourceIn readOnly e
    rw [h.1, Option.isSome_iff_exists] at hsome
    obtain ⟨s, hs⟩ := hsome
    rw [List.filterMap_cons_some hs]
    exact .cons hs (ih h.2)

theorem map_name_sources (readOnly : Bool) {es : Entries Json} (h : ∀ e ∈ es, keepsGrouped e.2) :
    (es.filterMap (sourceIn groupedLayout readOnly)).map (·.name) = es.map (·.1) := by
  have hnames : List.Forall₂ (· = ·)
      ((es.filterMap (sourceIn groupedLayout readOnly)).map (·.name)) (es.map (·.1)) :=
    List.forall₂_map_left_iff.2 <| List.forall₂_map_right_iff.2 <|
      (forall₂_sourceIn readOnly h).flip.imp fun _ _ hs => name_of_sourceIn hs
  rwa [List.forall₂_eq_eq_eq] at hnames

/-- The columns of entries are named after them, and they are read-only if their group is or their
options say so. -/
theorem forall₂_groupedColumn (readOnly : Bool) {es : Entries Json}
    (h : ∀ e ∈ es, keepsGrouped e.2) :
    List.Forall₂
      (fun e c => c.name = e.1 ∧ c.readOnly = (readOnly || (optionsAt overlay table e).readOnly))
      es (es.filterMap (groupedColumn overlay m table readOnly)) := by
  unfold groupedColumn
  rw [← List.map_filterMap, List.forall₂_map_right_iff]
  refine (forall₂_sourceIn readOnly h).imp fun e s hs => ⟨?_, ?_⟩
  · rw [Source.column_name, name_of_sourceIn hs]
  · rw [Source.column_readOnly, readOnly_of_sourceIn hs, options_of_sourceIn overlay table hs]

/-! ## The draft of the groups -/

theorem keeps_of_mem_keptGroup (groups : Entries Json) (name : String) :
    ∀ e ∈ keptGroup groups name, keepsGrouped e.2 := by
  intro e he
  unfold keptGroup at he
  split at he
  · exact (List.mem_filter.1 he).2
  · cases he

theorem filterMap_sourceIn (readOnly : Bool) (es : Entries Json) :
    (es.filter fun e => keepsGrouped e.2).filterMap (sourceIn groupedLayout readOnly)
      = es.filterMap (sourceIn groupedLayout readOnly) := by
  rw [List.filterMap_filter]
  refine List.filterMap_congr fun e _ => ?_
  split
  · rfl
  · next h =>
    rw [← isSome_sourceIn readOnly e, Option.not_isSome_iff_eq_none] at h
    exact h.symm

theorem groupSources_eq (groups : Entries Json) (name : String) (readOnly : Bool) :
    groupSources groups name readOnly
      = (keptGroup groups name).filterMap (sourceIn groupedLayout readOnly) := by
  unfold groupSources groupEntries entriesIn keptGroup
  cases groups.get? name with
  | none => rfl
  | some found =>
    cases found with
    | object columns => exact (filterMap_sourceIn readOnly columns).symm
    | _ => rfl

/-- The names of a draft are those of the kept entries. -/
theorem names_groupedDraft (key : Option String) (groups : Entries Json) :
    (groupedDraft table key groups).sources.map (·.name)
      = (keptGroup groups "ro" ++ keptGroup groups "rw").map (·.1) := by
  unfold groupedDraft
  simp only [List.map_append, groupSources_eq, map_name_sources _ (keeps_of_mem_keptGroup groups _)]

/-- A name that is in both groups makes two fields the same. -/
theorem areTable_eq (readOnly readWrite : Entries Json) :
    areTable readOnly readWrite = (!(readOnly ++ readWrite).isEmpty &&
      decide ((readOnly ++ readWrite).map fun e => lowerText (camel e.1)).Nodup) := by
  unfold areTable
  by_cases hfields : ((readOnly ++ readWrite).map fun e => lowerText (camel e.1)).Nodup
  · have hapart : readOnly.all (fun e => !Entries.has readWrite e.1) = true := by
      rw [List.map_append] at hfields
      rw [List.all_eq_true]
      intro e he
      rw [Bool.not_eq_true', ← Bool.not_eq_true, Entries.has_iff]
      intro hboth
      obtain ⟨e', he', hname⟩ := List.mem_map.1 hboth
      refine (List.nodup_append.1 hfields).2.2 _ (List.mem_map_of_mem he) _
        (List.mem_map_of_mem he') ?_
      rw [hname]
    rw [hapart, Bool.and_true]
  · simp only [hfields, decide_false, Bool.and_false]

theorem tableOfGroups_eq (key : Option String) (groups : Entries Json) :
    tableOfGroups overlay m table key (keptGroup groups "ro") (keptGroup groups "rw")
      = ⟨table, (groupedDraft table key groups).columns overlay m,
          (groupedDraft table key groups).key⟩ := by
  have hkey : (fun k => (groupedDraft table key groups).sources.any (·.name == k))
      = fun k => ((keptGroup groups "ro" ++ keptGroup groups "rw").map (·.1)).contains k := by
    funext k
    rw [← names_groupedDraft table key, List.contains_eq_any_beq, List.any_map]
    exact congrArg _ (funext fun s => Bool.beq_comm)
  unfold tableOfGroups groupedColumn
  rw [← hkey, ← List.map_filterMap, ← List.map_filterMap, ← List.map_append, ← groupSources_eq,
    ← groupSources_eq]
  rfl

theorem key_of_groupedDraft {key : Option String} {groups : Entries Json} {k : String}
    (h : (groupedDraft table key groups).key = some k) :
    ∃ c ∈ (groupedDraft table key groups).columns overlay m, c.name = k := by
  obtain ⟨-, hany⟩ := Option.filter_eq_some_iff.1 h
  have hcolumns : ((groupedDraft table key groups).columns overlay m).any (·.name == k) := by
    rw [any_name_columns]
    exact hany
  obtain ⟨c, hc, hname⟩ := List.any_eq_true.1 hcolumns
  exact ⟨c, hc, beq_iff_eq.1 hname⟩

theorem table?_groupedDraft (key : Option String) (groups : Entries Json) :
    (groupedDraft table key groups).table? overlay m
      = if areTable (keptGroup groups "ro") (keptGroup groups "rw") then
          some (tableOfGroups overlay m table key (keptGroup groups "ro") (keptGroup groups "rw"))
        else none := by
  have hnames := names_groupedDraft table key groups
  have hempty : (groupedDraft table key groups).sources.isEmpty
      = (keptGroup groups "ro" ++ keptGroup groups "rw").isEmpty := by
    simpa only [List.isEmpty_map] using congrArg List.isEmpty hnames
  have hfields : ((groupedDraft table key groups).columns overlay m).map Column.fieldKey
      = (keptGroup groups "ro" ++ keptGroup groups "rw").map fun e => lowerText (camel e.1) := by
    have hkeys := congrArg (List.map fun name => lowerText (camel name)) hnames
    rw [List.map_map, List.map_map] at hkeys
    rw [Draft.columns, List.map_map]
    exact hkeys
  rw [Draft.table?, hempty, tableOfGroups_eq, areTable_eq,
    Table.toOption_make fun k hk => key_of_groupedDraft overlay m table hk, hfields]
  by_cases hnone : (keptGroup groups "ro" ++ keptGroup groups "rw").isEmpty
  · simp only [hnone, if_true, Bool.not_true, Bool.false_and, Bool.false_eq_true, if_false]
  · simp only [hnone, Bool.false_eq_true, if_false, Bool.not_false, Bool.true_and,
      decide_eq_true_eq]
    rfl

/-- The draft of the groups gives one table or none. -/
theorem tables_groupedDraft (key : Option String) (groups : Entries Json) :
    [groupedDraft table key groups].filterMap (Draft.table? overlay m)
      = if areTable (keptGroup groups "ro") (keptGroup groups "rw") then
          [tableOfGroups overlay m table key (keptGroup groups "ro") (keptGroup groups "rw")]
        else [] := by
  rw [List.filterMap_cons, table?_groupedDraft]
  by_cases htable : areTable (keptGroup groups "ro") (keptGroup groups "rw")
  · simp only [htable, if_true, List.filterMap_nil]
  · simp only [htable, Bool.false_eq_true, if_false, List.filterMap_nil]

end

/-! ## Documents -/

/-- A grouped document whose table has a name gives that table if its kept columns make one, and
nothing else. Their names and order are those of the entries of both groups; all of the first group
are read-only, and those of the second are as their options say. -/
theorem normalize_grouped_eq_table (overlay : Option Overlay) (m : Mapper) {doc : Json}
    {root : Entries Json} (h : shapeOf doc = .ok (.grouped, root)) :
    (normalize overlay m doc).map (fun w => w.value.1) =
        (match (root.get? "databaseTable").bind textOf?, root.get? "databaseCols" with
          | none, _ => .error .unnamedTable
          | some name, some (.object groups) => .ok <|
            if areTable (keptGroup groups "ro") (keptGroup groups "rw") then
              [tableOfGroups overlay m name ((root.get? "databaseTableId").bind textOf?)
                (keptGroup groups "ro") (keptGroup groups "rw")]
            else []
          | some _, none | some _, some .null => .ok []
          | some _, some _ => .error .groupsNotMapping) ∧
      ∀ (table : String) (groups : Entries Json),
        List.Forall₂ (fun e c => c.name = e.1 ∧ c.readOnly = true) (keptGroup groups "ro")
            ((keptGroup groups "ro").filterMap (groupedColumn overlay m table true)) ∧
          List.Forall₂
            (fun e c => c.name = e.1 ∧ c.readOnly = (optionsAt overlay table e).readOnly)
            (keptGroup groups "rw")
            ((keptGroup groups "rw").filterMap (groupedColumn overlay m table false)) := by
  refine ⟨?_, fun table groups => ⟨?_, ?_⟩⟩
  · rw [normalize_value, planOf_grouped h]
    cases (root.get? "databaseTable").bind textOf? with
    | none => rfl
    | some name =>
      unfold groupsOf
      cases root.get? "databaseCols" with
      | none => exact congrArg Except.ok (tables_groupedDraft overlay m name _ [])
      | some cols =>
        cases cols with
        | null => exact congrArg Except.ok (tables_groupedDraft overlay m name _ [])
        | object groups => exact congrArg Except.ok (tables_groupedDraft overlay m name _ groups)
        | _ => rfl
  · have hcolumns := forall₂_groupedColumn overlay m table true
      (keeps_of_mem_keptGroup groups "ro")
    simpa only [Bool.true_or] using hcolumns
  · have hcolumns := forall₂_groupedColumn overlay m table false
      (keeps_of_mem_keptGroup groups "rw")
    simpa only [Bool.false_or] using hcolumns

/-- A grouped document with a group of another name, with entries that are no columns, and with a
read-write column that its comment makes read-only. -/
def accountsRoot : Entries Json :=
  [("databaseTable", .string " accounts "), ("databaseTableId", .string " id "),
   ("databaseCols", .object
     [("rw", .object
        [("id", .object [("type", .string "int")]),
         ("note", .bool true),
         ("blank", .object [("type", .string " ")]),
         ("secret", .object
           [("type", .string "varchar"), ("comment", .string "\x7b\"readOnly\": 1\x7d")])]),
      ("kept", .object [("old", .object [("type", .string "int")])]),
      ("ro", .object [("seen_at", .object [("type", .number (.int 5))])])])]

theorem normalize_accountsRoot :
    ((normalize none (.ofCatalog []) (.object accountsRoot)).map (fun w => w.value.1)).map
        (List.map fun t => (t.name, t.primaryKey, t.columns.map fun c => (c.name, c.readOnly)))
      = .ok [("accounts", some "id", [("seen_at", true), ("id", false), ("secret", true)])] := by
  have hshape : shapeOf (.object accountsRoot) = .ok (.grouped, accountsRoot) := rfl
  have hname : (accountsRoot.get? "databaseTable").bind textOf? = some "accounts" := by
    decide +kernel
  rw [(normalize_grouped_eq_table none (.ofCatalog []) hshape).1, hname]
  refine congrArg Except.ok (?_ : List.map _ (if _ then _ else _) = _)
  decide +kernel

end TableClasses.Schema
