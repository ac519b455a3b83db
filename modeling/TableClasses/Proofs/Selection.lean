import TableClasses.Proofs.DistinctKeys
import TableClasses.Proofs.Drafts
import TableClasses.Proofs.Reports
import TableClasses.Proofs.UnfitDocuments

/-!
# Runs for one table

The classes of one table are those that a run for all tables renders for it, in their order. A run
for all tables and one for a single table read the same files and normalize the same tables
(`Settings.normalized`); they part where tables are selected, and rendering does not mix what comes
of different tables. Table names are keys of a document that was read, so a name selects one table,
which gives one class of each kind.
-/

namespace TableClasses

open TableClasses.Files TableClasses.Schema TableClasses.ValueObject TableClasses.Classes

/-! ## Ends of runs -/

namespace Run

variable {σ α β : Type}

theorem endOn_bind (x : Run (StateM σ) α) (f : α → Run (StateM σ) β) (s : σ) :
    (x >>= f).endOn s =
      match x.endOn s with
      | .ok a => (f a).endOn (x.stateOn s)
      | .error e => .error e := by
  unfold endOn
  rw [runOn_bind]
  show _ = match x.endOn s with
    | .ok a => _
    | .error e => _
  cases x.endOn s <;> rfl

theorem endOn_bind_eq_ok_iff {x : Run (StateM σ) α} {f : α → Run (StateM σ) β} {s : σ} {b : β} :
    (x >>= f).endOn s = .ok b ↔
      ∃ a, x.endOn s = .ok a ∧ (f a).endOn (x.stateOn s) = .ok b := by
  rw [endOn_bind]
  cases x.endOn s with
  | ok a => simp
  | error e => simp

theorem endOn_orFail {ε : Type} (error : ε → Error) (r : Except ε α) (s : σ) :
    (orFail error r : Run (StateM σ) α).endOn s = r.mapError error := by
  cases r <;> rfl

end Run

/-! ## Names of tables -/

namespace Schema

theorem name_of_table? {overlay : Option Overlay} {m : Mapper} {d : Draft} {t : Table}
    (h : d.table? overlay m = some t) : t.name = d.name := by
  unfold Draft.table? at h
  split at h
  · cases h
  · cases hmake : Table.make d.name (d.columns overlay m) d.key with
    | error fault =>
      rw [hmake] at h
      cases h
    | ok made =>
      rw [hmake] at h
      obtain rfl := Option.some.inj h
      obtain ⟨-, -, rfl⟩ := Table.make_eq_ok_iff.1 hmake
      rfl

theorem map_name_tables_sublist (overlay : Option Overlay) (m : Mapper) (ds : List Draft) :
    ((ds.filterMap (Draft.table? overlay m)).map (·.name)).Sublist (ds.map (·.name)) := by
  induction ds with
  | nil => exact .slnil
  | cons d ds ih =>
    rw [List.map_cons]
    cases ht : d.table? overlay m with
    | none =>
      rw [List.filterMap_cons_none ht]
      exact ih.cons _
    | some t =>
      rw [List.filterMap_cons_some ht, List.map_cons, name_of_table? ht]
      exact ih.cons_cons _

theorem nodup_keys_catalogEntries {root es : Entries Json} (hroot : root.Unique Json.Distinct)
    (h : catalogEntries root = .ok es) : es.keys.Nodup := by
  unfold catalogEntries at h
  split at h
  · exact Except.ok.inj h ▸ hroot.keys
  · next found hget =>
    obtain rfl := Except.ok.inj h
    exact (Json.distinct_object_iff.1 (hroot.of_get? hget)).keys
  · cases h

/-- The tables of a catalog are named by the keys of one object. -/
theorem nodup_keys_planOf {doc : Json} (hdoc : doc.Distinct) {es : Entries Json}
    (h : planOf doc = .ok (.catalog es)) : es.keys.Nodup := by
  cases doc with
  | object root =>
    cases hgrouped : Entries.has root "databaseTable" with
    | true =>
      rw [planOf_grouped (shapeOf_grouped hgrouped)] at h
      split at h
      · cases h
      · cases hgroups : groupsOf root <;> rw [hgroups] at h <;> cases h
    | false =>
      rw [planOf_catalog (shapeOf_catalog hgrouped)] at h
      cases hentries : catalogEntries root with
      | error fault =>
        rw [hentries] at h
        cases h
      | ok found =>
        rw [hentries] at h
        cases h
        exact nodup_keys_catalogEntries (Json.distinct_object_iff.1 hdoc) hentries
  | _ => cases h

theorem nodup_names_drafts {doc : Json} (hdoc : doc.Distinct) {p : Plan}
    (h : planOf doc = .ok p) : (p.drafts.map (·.name)).Nodup := by
  cases p with
  | grouped name key groups => exact List.nodup_singleton _
  | catalog es =>
    have hnames : (Plan.catalog es).drafts.map (·.name)
        = (es.filter fun e => e.1 != housekeepingTable).map (·.1) := List.map_map
    rw [hnames]
    exact (nodup_keys_planOf hdoc h).sublist (List.filter_sublist.map _)

theorem nodup_names_normalize {overlay : Option Overlay} {m : Mapper} {doc : Json}
    (hdoc : doc.Distinct) {w : Warned (List Table × Mapper)}
    (h : normalize overlay m doc = .ok w) : (w.value.1.map (·.name)).Nodup := by
  have hvalue := normalize_value overlay m doc
  rw [h] at hvalue
  cases hplan : planOf doc with
  | error fault =>
    rw [hplan] at hvalue
    cases hvalue
  | ok p =>
    rw [hplan] at hvalue
    have htables : w.value.1 = p.drafts.filterMap (Draft.table? overlay m) := Except.ok.inj hvalue
    rw [htables]
    exact (nodup_names_drafts hdoc hplan).sublist (map_name_tables_sublist overlay m p.drafts)

end Schema

section
variable {σ : Type} [Access (StateM σ)]

theorem distinct_of_loadDocument {path : String} {fs : σ} {doc : Json}
    (h : (loadDocument path : Run (StateM σ) Json).endOn fs = .ok doc) : doc.Distinct := by
  unfold loadDocument at h
  obtain ⟨format, -, h⟩ := Run.endOn_bind_eq_ok_iff.1 h
  obtain ⟨read, -, h⟩ := Run.endOn_bind_eq_ok_iff.1 h
  obtain ⟨text, -, h⟩ := Run.endOn_bind_eq_ok_iff.1 h
  split at h
  · next read hread =>
    obtain rfl := Except.ok.inj h
    exact Format.distinct_of_parse? hread
  · cases h

end

/-! ## Rendering -/

namespace Settings

theorem renderTables_value (s : Settings) (tables : List Table) :
    (s.renderTables tables).value = s.kinds.value.flatMap fun k =>
      tables.map fun t => (render s.rendering k t).value :=
  renderAll_value s.rendering s.kinds.value tables

/-- Rendering commutes with picking out the tables of a name. -/
theorem renderTables_filter (s : Settings) (tables : List Table) (name : String) :
    (s.renderTables (tables.filter (·.name == name))).value
      = (s.renderTables tables).value.filter (·.table == name) := by
  rw [renderTables_value, renderTables_value, List.filter_flatMap]
  refine List.flatMap_congr fun k _ => ?_
  rw [List.filter_map]
  rfl

theorem map_kind_renderTables_singleton (s : Settings) (t : Table) :
    (s.renderTables [t]).value.map (·.kind) = s.kinds.value := by
  rw [renderTables_value, List.map_flatMap]
  exact List.flatMap_singleton' _

end Settings

/-! ## Selecting -/

theorem filter_name_of_nodup {tables : List Table} (h : (tables.map (·.name)).Nodup) {t : Table}
    (ht : t ∈ tables) : tables.filter (·.name == t.name) = [t] := by
  obtain ⟨before, after, rfl⟩ := List.append_of_mem ht
  rw [List.map_append, List.map_cons, List.nodup_middle, List.nodup_cons, List.mem_append,
    not_or] at h
  obtain ⟨⟨hbefore, hafter⟩, -⟩ := h
  have hnone : ∀ {others : List Table}, t.name ∉ others.map (·.name) →
      others.filter (·.name == t.name) = [] := by
    intro others hothers
    rw [List.filter_eq_nil_iff]
    exact fun u hu he => hothers (beq_iff_eq.1 he ▸ List.mem_map_of_mem hu)
  rw [List.filter_append, hnone hbefore, List.nil_append, List.filter_cons, hnone hafter]
  exact if_pos (beq_self_eq_true t.name)

namespace Settings

section
variable {m : Type → Type} [Monad m] [Access m]

/-- The tables of a document with this overlay. -/
def tablesOf (s : Settings) (doc : Json) (overlay : Option Overlay) : Run m (List Table) := do
  let (tables, _) ← Run.report (← Run.orFail .schema (normalize overlay (.ofCatalog s.catalog) doc))
  return tables

/-- The tables of the schema, whichever are asked for. -/
def normalized (s : Settings) : Run m (List Table) := do
  let doc ← loadDocument s.schemaFile
  match s.metaFile with
  | some path => s.tablesOf doc (← loadOverlay path)
  | none => s.tablesOf doc none

/-- The classes of the tables that are asked for. -/
def classes (s : Settings) : Run m (List Generated) := do
  Run.report (s.renderTables (← s.loadTables))

theorem loadTables_eq [LawfulMonad m] (s : Settings) :
    (s.loadTables : Run m (List Table))
      = s.normalized >>= fun tables => Run.orFail id (s.select tables) := by
  unfold loadTables normalized tablesOf
  cases s.metaFile <;> simp only [bind_assoc, pure_bind]

end

/-- The same settings, asking for this table. -/
def withTable (s : Settings) (table : Option String) : Settings := { s with table }

theorem nodup_names_tablesOf {σ : Type} {s : Settings} {fs : σ} {doc : Json} (hdoc : doc.Distinct)
    {overlay : Option Overlay} {tables : List Table}
    (h : (s.tablesOf doc overlay : Run (StateM σ) (List Table)).endOn fs = .ok tables) :
    (tables.map (·.name)).Nodup := by
  unfold tablesOf at h
  obtain ⟨w, hw, h⟩ := Run.endOn_bind_eq_ok_iff.1 h
  obtain rfl : w.value.1 = tables := Except.ok.inj h
  rw [Run.endOn_orFail] at hw
  cases hnormalize : normalize overlay (.ofCatalog s.catalog) doc with
  | error fault =>
    rw [hnormalize] at hw
    cases hw
  | ok normal =>
    rw [hnormalize] at hw
    obtain rfl := Except.ok.inj hw
    exact nodup_names_normalize hdoc hnormalize

section
variable {σ : Type} [Access (StateM σ)] {s : Settings} {fs : σ} {tables : List Table}

/-- What a run normalizes does not hang on the table that is asked for. -/
theorem endOn_classes (h : (s.normalized : Run (StateM σ) (List Table)).endOn fs = .ok tables)
    (table : Option String) :
    ((s.withTable table).classes : Run (StateM σ) (List Generated)).endOn fs
      = ((s.withTable table).select tables).map fun ts => (s.renderTables ts).value := by
  have hload : ((s.withTable table).loadTables : Run (StateM σ) (List Table)).endOn fs
      = (s.withTable table).select tables := by
    have hnormalized : ((s.withTable table).normalized : Run (StateM σ) (List Table)).endOn fs
        = .ok tables := h
    rw [loadTables_eq, Run.endOn_bind, hnormalized]
    dsimp only
    rw [Run.endOn_orFail]
    cases (s.withTable table).select tables <;> rfl
  unfold classes
  rw [Run.endOn_bind, hload]
  cases (s.withTable table).select tables <;> rfl

theorem nodup_names_normalized
    (h : (s.normalized : Run (StateM σ) (List Table)).endOn fs = .ok tables) :
    (tables.map (·.name)).Nodup := by
  unfold normalized at h
  obtain ⟨doc, hdoc, h⟩ := Run.endOn_bind_eq_ok_iff.1 h
  have hdistinct := distinct_of_loadDocument hdoc
  split at h
  · obtain ⟨overlay, -, h⟩ := Run.endOn_bind_eq_ok_iff.1 h
    exact nodup_names_tablesOf hdistinct h
  · exact nodup_names_tablesOf hdistinct h

end

theorem select_all (s : Settings) {table : Option String} (h : table = none ∨ table = some allTables)
    (tables : List Table) :
    (s.withTable table).select tables = if tables = [] then .error .noTables else .ok tables := by
  have honly : (s.withTable table).onlyTable? = none := by
    obtain rfl | rfl := h <;> rfl
  unfold select
  rw [honly]
  cases tables <;> rfl

theorem select_one (s : Settings) {name : String} (h : name ≠ allTables) (tables : List Table) :
    (s.withTable (some name)).select tables =
      if name ∈ tables.map (·.name) then .ok (tables.filter (·.name == name))
      else .error (.tableNotFound name s.schemaFile) := by
  have honly : (s.withTable (some name)).onlyTable? = some name := by
    simp [onlyTable?, withTable, h]
  have hnamed : (tables.filter (·.name == name)).isEmpty = true ↔ name ∉ tables.map (·.name) := by
    simp [List.isEmpty_iff, List.filter_eq_nil_iff]
  unfold select
  rw [honly]
  by_cases hmem : name ∈ tables.map (·.name)
  · rw [if_pos hmem]
    exact if_neg fun hempty => hnamed.1 hempty hmem
  · rw [if_neg hmem]
    exact if_pos (hnamed.2 hmem)

/-- How runs over the same files go apart by the table that is asked for. -/
structure Selects {σ : Type} [Access (StateM σ)] (s : Settings) (fs : σ) (tables : List Table) :
    Prop where
  /-- Without a table, or with the name for all of them, all tables are rendered, if there are
  any. -/
  all : ∀ table, table = none ∨ table = some allTables →
    ((s.withTable table).classes : Run (StateM σ) (List Generated)).endOn fs =
      if tables = [] then .error .noTables else .ok (s.renderTables tables).value
  /-- A name that a table has gives the classes of this table alone, one of each kind. -/
  one : ∀ name, name ≠ allTables → name ∈ tables.map (·.name) → ∃ files,
    ((s.withTable none).classes : Run (StateM σ) (List Generated)).endOn fs = .ok files ∧
      ((s.withTable (some name)).classes : Run (StateM σ) (List Generated)).endOn fs
        = .ok (files.filter (·.table == name)) ∧
      (files.filter (·.table == name)).map (·.kind)
        = (s.artifacts.filterMap Kind.ofName?).eraseDups
  /-- A name that no table has is the only one that is not found. -/
  notFound : ∀ name, name ≠ allTables →
    (((s.withTable (some name)).classes : Run (StateM σ) (List Generated)).endOn fs
      = .error (.tableNotFound name s.schemaFile) ↔ name ∉ tables.map (·.name))

/-- Once the tables are normalized, a run for one table gives of the classes of all tables those of
this table. That names differ comes from the document, whatever file system it was read from. -/
theorem classes_selects {σ : Type} [Access (StateM σ)] {s : Settings} {fs : σ}
    {tables : List Table}
    (h : (s.normalized : Run (StateM σ) (List Table)).endOn fs = .ok tables) :
    s.Selects fs tables where
  all table htable := by
    rw [endOn_classes h, select_all s htable]
    split <;> rfl
  one name hname hmem := by
    have hnodup := nodup_names_normalized h
    obtain ⟨t, ht, rfl⟩ := List.mem_map.1 hmem
    have hne : tables ≠ [] := List.ne_nil_of_mem ht
    refine ⟨(s.renderTables tables).value, ?_, ?_, ?_⟩
    · rw [endOn_classes h, select_all s (.inl rfl), if_neg hne]
      rfl
    · rw [endOn_classes h, select_one s hname, if_pos hmem, ← renderTables_filter]
      rfl
    · rw [← renderTables_filter, filter_name_of_nodup hnodup ht, map_kind_renderTables_singleton]
      exact Kind.request_fst s.artifacts
  notFound name hname := by
    rw [endOn_classes h, select_one s hname]
    split
    · next hmem => exact iff_of_false (fun he => by cases he) (not_not.2 hmem)
    · next hmem => exact iff_of_true rfl hmem

/-- A schema with two tables. -/
def shopTree : Tree :=
  { nodes :=
      [(["schema.json"], .file
          ("\x7b\"users\":\x7b\"columns\":\x7b\"id\":[\"int\"]\x7d\x7d,"
            ++ "\"orders\":\x7b\"columns\":\x7b\"id\":[\"int\"]\x7d\x7d\x7d").toUTF8)] }

theorem classes_usersSettings :
    (usersSettings.normalized : Run (StateM Tree) (List Table)).endOn shopTree
        = .ok (numberedTables ["users", "orders"]) ∧
      ((usersSettings.withTable (some "carts")).classes : Run (StateM Tree) (List Generated)).endOn
        shopTree = .error (.tableNotFound "carts" "schema.json") ∧
      ∃ files, ((usersSettings.withTable none).classes : Run (StateM Tree) (List Generated)).endOn
          shopTree = .ok files ∧
        ((usersSettings.withTable (some "orders")).classes : Run (StateM Tree) (List Generated)).endOn
          shopTree = .ok (files.filter (·.table == "orders")) ∧
        (files.filter (·.table == "orders")).map (·.kind) = [.data, .storage, .collection] := by
  have hnormalized : (usersSettings.normalized : Run (StateM Tree) (List Table)).endOn shopTree
      = .ok (numberedTables ["users", "orders"]) := by
    decide +kernel
  have hselects := classes_selects hnormalized
  have hkinds : (usersSettings.artifacts.filterMap Kind.ofName?).eraseDups
      = [.data, .storage, .collection] := by
    decide +kernel
  refine ⟨hnormalized, (hselects.notFound "carts" (by decide)).2 (by decide), ?_⟩
  rw [← hkinds]
  exact hselects.one "orders" (by decide) (by decide)

end Settings

end TableClasses
