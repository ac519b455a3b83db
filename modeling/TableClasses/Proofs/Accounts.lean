import TableClasses.Proofs.Drafts

/-!
# Accounts of visited columns

A document is visited column by column. `Fate` says what becomes of a visited column: it is built,
or a warning that names its table and itself says that it is left out. `Settled` gives every column
of a table its fate, in order, and `Accounts` every table: its columns make a table with all of
them, or one warning says that the table is left out. `Quiet` work reports nothing of this kind, and
all that is done for a column that is built is quiet; so the fates are all that the reports of a run
come from.
-/

namespace TableClasses

open Schema

/-! ## Reports -/

/-- Whether a warning says that a column or a table is left out. -/
def Warning.isSkip : Warning → Bool
  | .notARecord .. => true
  | .noDataType .. => true
  | .tableSkipped .. => true
  | _ => false

/-- The warnings that say that a column is left out. -/
inductive Warning.SkipsColumn (table column : String) : Warning → Prop
  | notARecord (fault : RecordFault) : SkipsColumn table column (.notARecord table column fault)
  | noDataType : SkipsColumn table column (.noDataType table column)

theorem Warning.SkipsColumn.message {table column : String} {w : Warning}
    (h : w.SkipsColumn table column) :
    ∃ why, w.message = "Column " ++ table ++ "." ++ column ++ why ++ ". Skipping." := by
  cases h with
  | notARecord fault =>
    refine ⟨" is not a column record (" ++ fault.message ++ ")", ?_⟩
    show "Column " ++ table ++ "." ++ column ++ " is not a column record (" ++ fault.message
      ++ "). Skipping." = _
    have hend : "). Skipping." = ")" ++ ". Skipping." := rfl
    rw [hend]
    simp only [String.append_assoc]
  | noDataType =>
    refine ⟨" has no data type", ?_⟩
    show "Column " ++ table ++ "." ++ column ++ " has no data type. Skipping." = _
    have hend : " has no data type. Skipping." = " has no data type" ++ ". Skipping." := rfl
    rw [hend, ← String.append_assoc]

namespace Warned

variable {α β : Type}

/-- What is reported as left out, first to last. -/
def skips (x : Warned α) : List Warning := x.warnings.filter Warning.isSkip

@[simp] theorem skips_pure (a : α) : (pure a : Warned α).skips = [] := rfl

@[simp] theorem skips_bind (x : Warned α) (f : α → Warned β) :
    (x >>= f).skips = x.skips ++ (f x.value).skips := by
  unfold skips
  rw [warnings_bind, List.filter_append]

theorem skips_foldlM {f : β → α → Warned β} (hf : ∀ b a, (f b a).skips = []) (l : List α) (b : β) :
    (l.foldlM f b).skips = [] := by
  induction l generalizing b with
  | nil => rfl
  | cons a rest ih => rw [List.foldlM_cons, skips_bind, hf, ih, List.append_nil]

end Warned

@[simp] theorem skips_warn (w : Warning) : (warn w).skips = [w].filter Warning.isSkip := rfl

namespace Schema

open TableClasses.Text TableClasses.ValueObject

/-! ## Work without reports -/

theorem skips_typeClassOf (v : Json) : (typeClassOf v).skips = [] := by
  unfold typeClassOf
  split
  · rfl
  · split <;> rfl
  · rfl

theorem skips_apply (o : Options) (key : String) (value : Json) :
    (o.apply key value).skips = [] := by
  unfold Options.apply
  split
  · rw [Warned.skips_bind, skips_typeClassOf]
    rfl
  · rfl
  · rfl

theorem skips_ofComment (comment : String) : (Options.ofComment comment).skips = [] := by
  unfold Options.ofComment
  simp only
  split
  · rfl
  · split
    · exact Warned.skips_foldlM (fun o (e : String × Json) => skips_apply o e.1 e.2) _ _
    · rfl
    · split <;> rfl

theorem skips_optionsOf (overlay : Option Overlay) (table : String) (s : Source) :
    (optionsOf overlay table s).skips = [] := by
  unfold optionsOf
  split
  · rfl
  · split
    · exact skips_ofComment _
    · rfl

theorem skips_sourceOf (name dataType : String) (readOnly : Bool) (r : Record) :
    (sourceOf name dataType readOnly r).skips = [] := by
  have hdefault : (defaultOf r.default).skips = [] := by
    unfold defaultOf
    split <;> rfl
  unfold sourceOf
  rw [Warned.skips_bind, hdefault]
  rfl

theorem skips_scalarOf (type : String) : (scalarOf type).skips = [] := by
  unfold scalarOf
  split <;> rfl

theorem skips_resolve (m : Mapper) (type : String) : (m.resolve type).skips = [] := by
  have hanswer : ∀ name, (Mapper.answer m.conversions name).skips = [] := by
    intro name
    unfold Mapper.answer
    split <;> rfl
  unfold Mapper.resolve
  simp only
  split
  · rfl
  · split
    · rfl
    · rw [Warned.skips_bind, hanswer]
      rfl

/-- Work that reports nothing as left out, with any mapper. -/
def Quiet {α : Type} (x : Normalizing α) : Prop := ∀ m, (x m).skips = []

namespace Quiet

variable {α β : Type}

theorem pure (a : α) : Quiet (Pure.pure a) := fun _ => rfl

theorem lift {x : Warned α} (h : x.skips = []) : Quiet (liftM x : Normalizing α) := by
  intro m
  rw [lift_apply, Warned.skips_bind, h]
  rfl

theorem bind {x : Normalizing α} {f : α → Normalizing β} (hx : Quiet x) (hf : ∀ a, Quiet (f a)) :
    Quiet (x >>= f) := by
  intro m
  rw [bind_apply, Warned.skips_bind, hx, hf]
  rfl

theorem known (type : String) {x y : Normalizing α} (hx : Quiet x) (hy : Quiet y) :
    Quiet (get >>= fun m : Mapper => if m.isKnown type then x else y) := by
  intro m
  rw [get_bind_apply]
  split
  · exact hx m
  · exact hy m

end Quiet

theorem quiet_resolveType (type : String) : Quiet (resolveType type) :=
  fun m => skips_resolve m type

theorem quiet_columnOf (overlay : Option Overlay) (table : String) (s : Source) :
    Quiet (columnOf overlay table s) := by
  have hclassify : Quiet (classify s.dataType) := by
    unfold classify
    refine .known _ ((quiet_resolveType _).bind fun _ => .pure _) ?_
    exact (Quiet.lift (skips_scalarOf _)).bind fun _ => .pure _
  have htypeClass : ∀ mapping type, Quiet (withTypeClass table s.name mapping type) := by
    intro mapping type
    cases type with
    | none => exact .pure mapping
    | some type =>
      unfold withTypeClass
      refine .known _ ((quiet_resolveType _).bind fun _ => .pure _) ?_
      exact (Quiet.lift rfl).bind fun _ => .pure _
  unfold columnOf
  refine (Quiet.lift (skips_optionsOf overlay table s)).bind fun options => ?_
  exact hclassify.bind fun (_, mapping) => (htypeClass mapping _).bind fun _ => .pure _

/-! ## Visits -/

/-- A column that is visited: its entry, the layout of its record and the access of its group. -/
structure Visit where
  layout : Layout
  readOnly : Bool
  entry : String × Json

namespace Visit

/-- The column that a visit builds, if it builds one. -/
def column? (overlay : Option Overlay) (m : Mapper) (table : String) (v : Visit) : Option Column :=
  (sourceIn v.layout v.readOnly v.entry).map fun s => s.column m (s.options overlay table)

/-- The report of a column that is left out. -/
def report? (table : String) (v : Visit) : Option Warning :=
  match v.layout.decode v.entry.2 with
  | .error fault => some (.notARecord table v.entry.1 fault)
  | .ok r =>
    match textOf? r.dataType with
    | none => some (.noDataType table v.entry.1)
    | some _ => none

end Visit

section
variable (overlay : Option Overlay) (m : Mapper) (table : String)

/-- What may become of a visited column: it is built under its name, or it is not built and a
warning says so. -/
inductive Fate (v : Visit) : Column ⊕ Warning → Prop
  | built {c : Column} (hcolumn : v.column? overlay m table = some c)
      (hname : c.name = v.entry.1) : Fate v (.inl c)
  | skipped {w : Warning} (hcolumn : v.column? overlay m table = none)
      (hskip : w.SkipsColumn table v.entry.1) : Fate v (.inr w)

/-- Every visited column has one fate; what is built and what is reported come in the order of the
visits. -/
def Settled (visits : List Visit) (columns : List Column) (reports : List Warning) : Prop :=
  ∃ fates : List (Column ⊕ Warning), List.Forall₂ (Fate overlay m table) visits fates ∧
    columns = fates.filterMap Sum.getLeft? ∧ reports = fates.filterMap Sum.getRight?

/-- The visited tables in their order: one without a column that is built goes without a word, any
other gives a table with all these columns or one warning that the table is left out. -/
inductive Accounts : List (String × List Visit) → List Table → List Warning → Prop
  | nil : Accounts [] [] []
  | empty {name : String} {visits : List Visit} {reports : List Warning}
      {rest : List (String × List Visit)} {tables : List Table} {others : List Warning}
      (hsettled : Settled overlay m name visits [] reports) (hrest : Accounts rest tables others) :
      Accounts ((name, visits) :: rest) tables (reports ++ others)
  | returned {t : Table} {visits : List Visit} {reports : List Warning}
      {rest : List (String × List Visit)} {tables : List Table} {others : List Warning}
      (hsettled : Settled overlay m t.name visits t.columns reports) (hcolumns : t.columns ≠ [])
      (hrest : Accounts rest tables others) :
      Accounts ((t.name, visits) :: rest) (t :: tables) (reports ++ others)
  | skipped {name : String} {visits : List Visit} {columns : List Column}
      {reports : List Warning} {key : Option String} {fault : TableFault}
      {rest : List (String × List Visit)} {tables : List Table} {others : List Warning}
      (hsettled : Settled overlay m name visits columns reports) (hcolumns : columns ≠ [])
      (hfault : Table.make name columns key = .error fault) (hrest : Accounts rest tables others) :
      Accounts ((name, visits) :: rest) tables (reports ++ .tableSkipped name fault :: others)

theorem report?_eq_none_iff (v : Visit) :
    v.report? table = none ↔ (v.column? overlay m table).isSome := by
  unfold Visit.report? Visit.column? sourceIn
  cases v.layout.decode v.entry.2 with
  | error fault => simp
  | ok r =>
    simp only [Option.isSome_map]
    cases textOf? r.dataType <;> simp

theorem skipsColumn_of_report? {v : Visit} {w : Warning} (h : v.report? table = some w) :
    w.SkipsColumn table v.entry.1 := by
  unfold Visit.report? at h
  split at h
  · obtain rfl := Option.some.inj h
    exact .notARecord _
  · split at h
    · obtain rfl := Option.some.inj h
      exact .noDataType
    · cases h

theorem name_of_column? {v : Visit} {c : Column} (h : v.column? overlay m table = some c) :
    c.name = v.entry.1 := by
  obtain ⟨s, hs, rfl⟩ := Option.map_eq_some_iff.1 h
  rw [Source.column_name]
  exact name_of_sourceIn hs

/-- A column is built exactly where there is nothing to report. -/
theorem settled_visits (visits : List Visit) :
    Settled overlay m table visits (visits.filterMap (Visit.column? overlay m table))
      (visits.filterMap (Visit.report? table)) := by
  induction visits with
  | nil => exact ⟨[], .nil, rfl, rfl⟩
  | cons v rest ih =>
    obtain ⟨fates, hfates, hcolumns, hreports⟩ := ih
    have hnone := report?_eq_none_iff overlay m table v
    cases hcolumn : v.column? overlay m table with
    | some c =>
      rw [hcolumn] at hnone
      have hreport : v.report? table = none := hnone.2 rfl
      refine ⟨.inl c :: fates, .cons (.built hcolumn (name_of_column? _ _ _ hcolumn)) hfates, ?_, ?_⟩
      · rw [List.filterMap_cons_some hcolumn, hcolumns]
        rfl
      · rw [List.filterMap_cons_none hreport, hreports]
        rfl
    | none =>
      rw [hcolumn] at hnone
      obtain ⟨w, hreport⟩ := Option.ne_none_iff_exists'.1 fun he => nomatch hnone.1 he
      refine ⟨.inr w :: fates, .cons (.skipped hcolumn ?_) hfates, ?_, ?_⟩
      · exact skipsColumn_of_report? table hreport
      · rw [List.filterMap_cons_none hcolumn, hcolumns]
        rfl
      · rw [List.filterMap_cons_some hreport, hreports]
        rfl

/-! ## Reports of runs -/

theorem skips_recordOf (layout : Layout) (name : String) (v : Json) :
    (recordOf layout table name v).skips =
      match layout.decode v with
      | .error fault => [.notARecord table name fault]
      | .ok _ => [] := by
  unfold recordOf
  cases layout.decode v <;> rfl

theorem skips_recordColumn (name : String) (readOnly : Bool) (r : Record) :
    (recordColumn overlay table name readOnly r m).skips =
      match textOf? r.dataType with
      | none => [.noDataType table name]
      | some _ => [] := by
  unfold recordColumn
  cases textOf? r.dataType with
  | none => rfl
  | some dataType =>
    have hquiet : Quiet (do
        let source ← (liftM (sourceOf name dataType readOnly r) : Normalizing Source)
        return some (← columnOf overlay table source)) := by
      refine (Quiet.lift (skips_sourceOf _ _ _ _)).bind fun source => ?_
      exact (quiet_columnOf overlay table source).bind fun _ => .pure _
    exact hquiet m

/-- The step of a catalog: an entry that gives no column is reported, and nothing else is. -/
theorem skips_keepColumn (kept : Kept) (e : String × Json) :
    (keepColumn overlay table kept e m).skips
      = (Visit.report? table ⟨catalogLayout, false, e⟩).toList := by
  have hmark : ∀ r, (kept.mark table e.1 r).skips = [] := by
    intro r
    unfold Kept.mark
    split
    · split <;> rfl
    · rfl
  unfold keepColumn Visit.report?
  simp only [bind_apply, lift_apply, Warned.skips_bind, Warned.skips_pure, Warned.value_bind,
    Warned.value_pure, List.append_nil, skips_recordOf, recordOf_value]
  cases catalogLayout.decode e.2 with
  | error fault => rfl
  | ok r =>
    simp only [Except.toOption, bind_apply, lift_apply, Warned.skips_bind, Warned.value_bind,
      Warned.skips_pure, Warned.value_pure, hmark, skips_recordColumn, List.nil_append]
    generalize (recordColumn overlay table e.1 false r m).value = result
    obtain ⟨column?, n⟩ := result
    cases column? <;> cases textOf? r.dataType <;> rfl

theorem skips_foldlM_keepColumn (es : Entries Json) (kept : Kept) :
    (es.foldlM (keepColumn overlay table) kept m).skips
      = (es.map fun e => ⟨catalogLayout, false, e⟩).filterMap (Visit.report? table) := by
  induction es generalizing kept m with
  | nil => rfl
  | cons e rest ih =>
    rw [List.foldlM_cons, bind_apply, Warned.skips_bind, skips_keepColumn, ih, List.map_cons]
    cases hreport : Visit.report? table ⟨catalogLayout, false, e⟩ with
    | none => rw [List.filterMap_cons_none hreport]; rfl
    | some w => rw [List.filterMap_cons_some hreport]; rfl

/-- The step of a group. -/
theorem skips_groupColumn (readOnly : Bool) (e : String × Json) :
    (groupColumn overlay table readOnly e m).skips
      = (Visit.report? table ⟨groupedLayout, readOnly, e⟩).toList := by
  unfold groupColumn Visit.report?
  simp only [bind_apply, lift_apply, Warned.skips_bind, Warned.skips_pure, Warned.value_bind,
    Warned.value_pure, List.append_nil, skips_recordOf, recordOf_value]
  cases groupedLayout.decode e.2 with
  | error fault => rfl
  | ok r =>
    simp only [Except.toOption, skips_recordColumn, List.nil_append]
    cases textOf? r.dataType <;> rfl

theorem skips_groupColumns (readOnly : Bool) (es : Entries Json) :
    (groupColumns overlay table readOnly es m).skips
      = (es.map fun e => ⟨groupedLayout, readOnly, e⟩).filterMap (Visit.report? table) := by
  rw [groupColumns_eq, bind_apply, Warned.skips_bind, pure_apply, Warned.skips_pure,
    List.append_nil]
  induction es generalizing m with
  | nil => rfl
  | cons e rest ih =>
    simp only [List.mapM_cons, bind_apply, pure_apply, Warned.skips_bind, Warned.skips_pure,
      List.append_nil, skips_groupColumn, ih, List.map_cons]
    cases hreport : Visit.report? table ⟨groupedLayout, readOnly, e⟩ with
    | none => rw [List.filterMap_cons_none hreport]; rfl
    | some w => rw [List.filterMap_cons_some hreport]; rfl

theorem skips_group (groups : Entries Json) (name : String) (readOnly : Bool) :
    (group overlay table groups name readOnly m).skips
      = ((groupEntries groups name).map fun e => ⟨groupedLayout, readOnly, e⟩).filterMap
          (Visit.report? table) := by
  unfold group groupEntries entriesIn
  cases groups.get? name with
  | none => rfl
  | some found =>
    cases found with
    | object columns => exact skips_groupColumns overlay m table readOnly columns
    | _ => rfl

/-! ## Tables -/

theorem filterMap_id_cons {α : Type} (a? : Option α) (l : List (Option α)) :
    (a? :: l).filterMap id = a?.toList ++ l.filterMap id := by
  cases a? <;> rfl

/-- The report of a draft that makes no table. -/
def Draft.reports (d : Draft) : List Warning := (tableOf d.name (d.columns overlay m) d.key).skips

omit m in
theorem Draft.columns_of_alike {m m' : Mapper} (h : m.Alike m') (d : Draft) :
    d.columns overlay m = d.columns overlay m' :=
  List.map_congr_left fun s _ => Source.column_of_alike h _ s

variable {m}

/-- A table that is visited, and what becomes of its draft. -/
theorem Accounts.cons {d : Draft} {visits : List Visit} {reports : List Warning}
    {rest : List (String × List Visit)} {tables : List Table} {others : List Warning}
    (hsettled : Settled overlay m d.name visits (d.columns overlay m) reports)
    (hrest : Accounts overlay m rest tables others) :
    Accounts overlay m ((d.name, visits) :: rest) ((d.table? overlay m).toList ++ tables)
      (reports ++ (d.reports overlay m ++ others)) := by
  have hvalue := tableOf_columns_value overlay m d
  unfold Draft.reports
  unfold tableOf at hvalue ⊢
  by_cases hnone : (d.columns overlay m).isEmpty
  · rw [if_pos hnone] at hvalue ⊢
    rw [List.isEmpty_iff.1 hnone] at hsettled
    rw [← hvalue]
    exact .empty hsettled hrest
  · have hcolumns : d.columns overlay m ≠ [] := fun he => hnone (List.isEmpty_iff.2 he)
    rw [if_neg hnone] at hvalue ⊢
    cases hmake : Table.make d.name (d.columns overlay m) d.key with
    | error fault =>
      rw [hmake] at hvalue
      rw [← hvalue]
      exact .skipped hsettled hcolumns hmake hrest
    | ok t =>
      rw [hmake] at hvalue
      rw [← hvalue]
      obtain ⟨-, -, rfl⟩ := Table.make_eq_ok_iff.1 hmake
      exact .returned (t := ⟨d.name, d.columns overlay m, d.key⟩) hsettled hcolumns hrest

/-- The columns of a catalog entry that are visited, unless the table is none to be visited. -/
def catalogVisits? (e : String × Json) : Option (List Visit) :=
  if e.1 = "phinxlog" then none
  else
    match e.2.field? "columns" with
    | some (.object columns) => some (columns.map fun c => ⟨catalogLayout, false, c⟩)
    | _ => none

theorem columns_catalogDraft {e : String × Json} {columns : Entries Json}
    (h : e.2.field? "columns" = some (.object columns)) :
    (catalogDraft e).columns overlay m
      = (columns.map fun c => ⟨catalogLayout, false, c⟩).filterMap
          (Visit.column? overlay m e.1) := by
  have halone := congrArg Table.columns (tableAlone_eq overlay m e)
  have hcolumns : tableColumns e.2 = columns := congrArg entriesIn h
  unfold tableAlone keptColumns at halone
  rw [hcolumns] at halone
  simp only [filterMap_columnAlone] at halone
  rw [← halone, List.filterMap_map]
  exact List.filterMap_congr fun c _ => columnAlone_eq overlay m e.1 c

/-- An entry that is visited gives the table of its draft and reports its columns, then itself. -/
theorem catalogTable_of_visits {e : String × Json} {visits : List Visit}
    (h : catalogVisits? e = some visits) :
    (catalogTable overlay e m).value.1 = (catalogDraft e).table? overlay m ∧
      (catalogTable overlay e m).skips
        = visits.filterMap (Visit.report? e.1) ++ (catalogDraft e).reports overlay m ∧
      (catalogDraft e).columns overlay m = visits.filterMap (Visit.column? overlay m e.1) := by
  have hvalue := catalogTable_eq_draft overlay m e
  obtain ⟨name, v⟩ := e
  simp only [catalogVisits?] at h
  by_cases hname : name = "phinxlog"
  · rw [if_pos hname] at h
    cases h
  · rw [if_neg hname] at h
    split at h
    · next columns hcolumns =>
      obtain rfl := Option.some.inj h
      have hother : name ≠ housekeepingTable := hname
      refine ⟨?_, ?_, columns_catalogDraft overlay hcolumns⟩
      · rw [hvalue, if_pos (bne_iff_ne.2 hother)]
      · have hkept := foldlM_columns_value overlay name hcolumns m
        rw [tableAlone_eq] at hkept
        simp only [catalogTable, if_neg hother, hcolumns, bind_apply, lift_apply,
          Warned.skips_bind, Warned.skips_pure, List.append_nil, skips_foldlM_keepColumn, hkept]
        rfl
    · cases h

theorem catalogTable_of_not_visited {e : String × Json} (h : catalogVisits? e = none) :
    (catalogTable overlay e m).value.1 = none ∧ (catalogTable overlay e m).skips = [] := by
  obtain ⟨name, v⟩ := e
  simp only [catalogVisits?] at h
  simp only [catalogTable]
  by_cases hname : name = housekeepingTable
  · rw [if_pos hname]
    exact ⟨rfl, rfl⟩
  · rw [if_neg (show name ≠ "phinxlog" from hname)] at h
    rw [if_neg hname]
    cases hfound : v.field? "columns" with
    | none => exact ⟨rfl, rfl⟩
    | some found =>
      rw [hfound] at h
      cases found with
      | object columns => cases h
      | _ => exact ⟨rfl, rfl⟩

/-- The run of a catalog, whatever the mapper has answered before. -/
theorem accounts_catalogTables {n : Mapper} (h : m.Alike n) (es : Entries Json) :
    Accounts overlay m (es.filterMap fun e => (catalogVisits? e).map fun visits => (e.1, visits))
      ((es.mapM (catalogTable overlay) n).value.1.filterMap id)
      (es.mapM (catalogTable overlay) n).skips := by
  induction es generalizing n with
  | nil => exact .nil
  | cons e rest ih =>
    have hsteady := steady_catalogTable overlay e
    have hrest := ih (h.trans (hsteady.alike n))
    simp only [List.mapM_cons, bind_apply, pure_apply, Warned.skips_bind, Warned.skips_pure,
      Warned.value_bind, Warned.value_pure, List.append_nil]
    cases hvisits : catalogVisits? e with
    | none =>
      obtain ⟨hvalue, hskips⟩ := catalogTable_of_not_visited overlay (m := n) hvisits
      rw [hvalue, hskips]
      simpa [hvisits] using hrest
    | some visits =>
      obtain ⟨hvalue, -, hcolumns⟩ := catalogTable_of_visits overlay (m := m) hvisits
      obtain ⟨-, hskips, -⟩ := catalogTable_of_visits overlay (m := n) hvisits
      have hsettled := settled_visits overlay m e.1 visits
      rw [← hcolumns] at hsettled
      have hreports : (catalogDraft e).reports overlay n = (catalogDraft e).reports overlay m := by
        unfold Draft.reports
        rw [Draft.columns_of_alike overlay h]
      have hcons := Accounts.cons overlay (d := catalogDraft e) hsettled hrest
      rw [← hsteady.value h, hvalue, hskips, hreports]
      rw [List.append_assoc, filterMap_id_cons, List.filterMap_cons_some (by rw [hvisits]; rfl)]
      exact hcons

/-- The columns of both groups that are visited. -/
def groupVisits (groups : Entries Json) : List Visit :=
  (groupEntries groups "ro").map (fun c => ⟨groupedLayout, true, c⟩)
    ++ (groupEntries groups "rw").map fun c => ⟨groupedLayout, false, c⟩

theorem columns_groupedDraft (key : Option String) (groups : Entries Json) :
    (groupedDraft table key groups).columns overlay m
      = (groupVisits groups).filterMap (Visit.column? overlay m table) := by
  unfold Draft.columns groupedDraft groupSources groupVisits
  rw [List.map_append, List.map_filterMap, List.map_filterMap, List.filterMap_append,
    List.filterMap_map, List.filterMap_map]
  rfl

theorem skips_warnGroups (groups : Entries Json) : (warnGroups table groups).skips = [] := by
  unfold warnGroups
  induction groups.keys.filter fun g => g != "ro" && g != "rw" with
  | nil => rfl
  | cons g rest ih =>
    show (warn (.unknownGroup g table) >>= fun _ => rest.forM _).skips = []
    rw [Warned.skips_bind, ih]
    rfl

theorem skips_knownKey (columns : List Column) (key : Option String) :
    (knownKey table columns key).skips = [] := by
  unfold knownKey
  split
  · rfl
  · split <;> rfl

/-- The run of a grouped document, whose groups are visited one after the other. -/
theorem accounts_groupedTable (key : Option String) (groups : Entries Json) :
    Accounts overlay m [(table, groupVisits groups)]
      (groupedTable overlay table key groups m).value.1.toList
      (groupedTable overlay table key groups m).skips := by
  have hcolumns := groups_value overlay m table key groups
  have hkey := knownKey_groupedDraft overlay m table key groups
  have hsettled := settled_visits overlay m table (groupVisits groups)
  rw [← columns_groupedDraft overlay table key] at hsettled
  have haccounts := Accounts.cons overlay (d := groupedDraft table key groups) hsettled .nil
  have hskips : (groupedTable overlay table key groups m).skips
      = (groupVisits groups).filterMap (Visit.report? table)
        ++ (groupedDraft table key groups).reports overlay m := by
    unfold groupedTable groupVisits
    simp only [bind_apply, lift_apply, Warned.skips_bind, Warned.skips_pure, Warned.value_bind,
      Warned.value_pure, List.append_nil, skips_warnGroups, List.nil_append, skips_group, hcolumns,
      List.filterMap_append, List.append_assoc]
    refine congrArg (_ ++ ·) (congrArg (_ ++ ·) ?_)
    unfold Draft.reports
    split
    · next hnone =>
      unfold tableOf
      rw [if_pos hnone]
      rfl
    · simp only [bind_apply, lift_apply, Warned.skips_bind, Warned.skips_pure, List.append_nil,
        Warned.value_bind, Warned.value_pure, skips_knownKey, hkey, List.nil_append]
      rfl
  rw [List.append_nil, List.append_nil] at haccounts
  rw [groupedTable_value, hskips]
  exact haccounts

/-! ## Documents -/

/-- The tables and columns that a document describes, in its order: of a grouped document the columns
of the read-only group and then those of the read-write group, and otherwise those of every table but
the one in which migrations are recorded. -/
def documentVisits (root : Entries Json) : List (String × List Visit) :=
  match root.get? "databaseTable" with
  | some name => [(scalarText name, groupVisits (entriesIn (root.get? "databaseCols")))]
  | none =>
    let tables :=
      match root.get? "tables" with
      | none => root
      | tables => entriesIn tables
    tables.filterMap fun e => (catalogVisits? e).map fun visits => (e.1, visits)

def Plan.visits : Plan → List (String × List Visit)
  | .catalog es => es.filterMap fun e => (catalogVisits? e).map fun visits => (e.1, visits)
  | .grouped name _ groups => [(name, groupVisits groups)]

/-- A plan leaves nothing out of what its document describes. -/
theorem visits_of_planOf {doc : Json} {p : Plan} (h : planOf doc = .ok p) :
    ∃ root, doc = .object root ∧ p.visits = documentVisits root := by
  cases doc with
  | object root =>
    refine ⟨root, rfl, ?_⟩
    unfold documentVisits
    cases hname : Entries.get? root "databaseTable" with
    | none =>
      have hshape := @shapeOf_catalog root (by rw [Entries.has, hname]; rfl)
      rw [planOf_catalog hshape] at h
      cases hentries : catalogEntries root with
      | error fault => rw [hentries] at h; cases h
      | ok es =>
        rw [hentries] at h
        obtain rfl := Except.ok.inj h
        obtain rfl := catalogEntries_eq_ok hentries
        rfl
    | some v =>
      have hshape := @shapeOf_grouped root (by rw [Entries.has, hname]; rfl)
      rw [planOf_grouped hshape, hname, Option.bind_some, textOf?_eq] at h
      cases htext : namesType v with
      | false => rw [htext] at h; cases h
      | true =>
        rw [htext] at h
        cases hgroups : groupsOf root with
        | error fault => rw [hgroups] at h; cases h
        | ok groups =>
          rw [hgroups] at h
          obtain rfl := Except.ok.inj h
          rw [Plan.visits, groupsOf_eq_ok hgroups]
  | _ => cases h

theorem accounts_tables (p : Plan) :
    Accounts overlay m p.visits (p.tables overlay m).value.1 (p.tables overlay m).skips := by
  cases p with
  | catalog es =>
    have haccounts := accounts_catalogTables overlay (.refl m) es
    unfold Plan.tables catalogTables
    simp only [bind_apply, pure_apply, Warned.value_bind, Warned.value_pure, Warned.skips_bind,
      Warned.skips_pure, List.append_nil]
    exact haccounts
  | grouped name key groups =>
    have haccounts := accounts_groupedTable overlay (m := m) name key groups
    unfold Plan.tables
    simp only [bind_apply, pure_apply, Warned.value_bind, Warned.value_pure, Warned.skips_bind,
      Warned.skips_pure, List.append_nil]
    exact haccounts

/-- Where a document gives tables, every visited column is built or reported by one warning, which
names its table and itself, and every table with a column that is built is given with all of them or
reported by one warning. The run reports nothing else as left out. -/
theorem accounts_of_normalize {doc : Json} {w : Warned (List Table × Mapper)}
    (h : normalize overlay m doc = .ok w) :
    (∃ root, doc = .object root ∧
      Accounts overlay m (documentVisits root) w.value.1 (w.warnings.filter Warning.isSkip)) ∧
    (∀ (table column : String) (report : Warning), report.SkipsColumn table column →
      ∃ why, report.message = "Column " ++ table ++ "." ++ column ++ why ++ ". Skipping.") ∧
    ∀ (table : String) (fault : TableFault), ∃ why,
      (Warning.tableSkipped table fault).message = why ++ ". Skipping table " ++ table ++ "." := by
  refine ⟨?_, fun table column report hskip => hskip.message,
    fun table fault => ⟨"Invalid schema: " ++ fault.message, rfl⟩⟩
  rw [normalize_eq] at h
  cases hplan : planOf doc with
  | error fault => rw [hplan] at h; cases h
  | ok plan =>
    rw [hplan] at h
    obtain rfl := Except.ok.inj h
    obtain ⟨root, hdoc, hvisits⟩ := visits_of_planOf hplan
    exact ⟨root, hdoc, hvisits ▸ accounts_tables overlay plan⟩

/-- A grouped document with a column in each group that cannot be built. -/
def parcelsRoot : Entries Json :=
  [("databaseTable", .string " parcels "),
   ("databaseCols", .object
     [("rw", .object
        [("id", .object [("type", .string "int")]), ("size", .object [("default", .string "1")])]),
      ("ro", .object
        [("sent_at", .object [("type", .string "datetime")]), ("note", .string "free text")])])]

theorem documentVisits_parcelsRoot :
    documentVisits parcelsRoot =
      [("parcels",
        [⟨groupedLayout, true, ("sent_at", .object [("type", .string "datetime")])⟩,
         ⟨groupedLayout, true, ("note", .string "free text")⟩,
         ⟨groupedLayout, false, ("id", .object [("type", .string "int")])⟩,
         ⟨groupedLayout, false, ("size", .object [("default", .string "1")])⟩])] := by
  have hname : scalarText (.string " parcels ") = "parcels" := by decide +kernel
  show [(scalarText (.string " parcels "), _)] = _
  rw [hname]
  rfl

/-- The reports of a catalog in which columns without a type and without a record stand around the
key, and in which another table has two columns of one field; and those of a grouped document. -/
theorem accounts_mixedCatalog :
    (∃ w, normalize none (.ofCatalog []) (.object mixedCatalog) = .ok w ∧
      w.value.1.map (fun t => (t.name, t.columns.map (·.name))) = [("orders", ["id", "part"])] ∧
      (w.warnings.filter Warning.isSkip).map Warning.message =
        ["Column orders.old_id has no data type. Skipping.",
         "Column orders.note is not a column record (invalid type: boolean `true`, " ++
           "expected struct CatalogColumn). Skipping.",
         "Invalid schema: Columns a_b and aB of table pairs map to the same field aB. " ++
           "Skipping table pairs."] ∧
      Accounts none (.ofCatalog []) (documentVisits mixedCatalog) w.value.1
        (w.warnings.filter Warning.isSkip)) ∧
    ∃ w, normalize none (.ofCatalog []) (.object parcelsRoot) = .ok w ∧
      w.value.1.map (fun t => (t.name, t.columns.map (·.name)))
        = [("parcels", ["sent_at", "id"])] ∧
      (w.warnings.filter Warning.isSkip).map Warning.message =
        ["Column parcels.note is not a column record (invalid type: string \"free text\", " ++
           "expected struct GroupedColumn). Skipping.",
         "Column parcels.size has no data type. Skipping."] ∧
      Accounts none (.ofCatalog [])
        [("parcels",
          [⟨groupedLayout, true, ("sent_at", .object [("type", .string "datetime")])⟩,
           ⟨groupedLayout, true, ("note", .string "free text")⟩,
           ⟨groupedLayout, false, ("id", .object [("type", .string "int")])⟩,
           ⟨groupedLayout, false, ("size", .object [("default", .string "1")])⟩])]
        w.value.1 (w.warnings.filter Warning.isSkip) := by
  have hcatalog := (normalize_eq none (.ofCatalog []) (.object mixedCatalog)).trans rfl
  have hgrouped := (normalize_eq none (.ofCatalog []) (.object parcelsRoot)).trans rfl
  refine ⟨⟨_, hcatalog, by decide +kernel, by decide +kernel, ?_⟩,
    _, hgrouped, by decide +kernel, by decide +kernel, ?_⟩
  · obtain ⟨root, hroot, haccounts⟩ := (accounts_of_normalize none hcatalog).1
    obtain rfl := Json.object.inj hroot
    exact haccounts
  · obtain ⟨root, hroot, haccounts⟩ := (accounts_of_normalize none hgrouped).1
    obtain rfl := Json.object.inj hroot
    rw [documentVisits_parcelsRoot] at haccounts
    exact haccounts

end

end Schema

end TableClasses
