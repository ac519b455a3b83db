import TableClasses.Proofs.Accounts
import TableClasses.Proofs.Records

/-!
# What a column takes from its record

Every table of a document is built from the visits of this table, of either layout and whatever the
options and the mapper are (`BuiltFrom`). What a visit builds takes its greatest length from the
fact in its record and nothing else, and so it takes its default, unless the column has a value
object or is of a category without literals.
-/

namespace TableClasses.Schema

open TableClasses.ValueObject

section
variable {overlay : Option Overlay} {m : Mapper}

/-! ## Columns of visits -/

/-- The record that is visited gives this value for a fact. -/
def Visit.Gives (v : Visit) (f : Fact) (value : Json) : Prop :=
  ∃ r, v.layout.decode v.entry.2 = .ok r ∧ r.get f = value

section
variable {v : Visit} {table : String} {c : Column} {value : Json}
  (h : v.column? overlay m table = some c)

include h

/-- A column that is built is that of the source of its record. -/
theorem Visit.exists_source :
    ∃ r dataType, v.layout.decode v.entry.2 = .ok r ∧
      c = (sourceOf v.entry.1 dataType v.readOnly r).value.column m
        ((sourceOf v.entry.1 dataType v.readOnly r).value.options overlay table) := by
  obtain ⟨s, hs, rfl⟩ := Option.map_eq_some_iff.1 h
  unfold sourceIn at hs
  split at hs
  · next r hr =>
    obtain ⟨dataType, -, rfl⟩ := Option.map_eq_some_iff.1 hs
    exact ⟨r, dataType, hr, rfl⟩
  · cases hs

theorem Visit.maxLength_eq (hgives : v.Gives .maxLength value) : c.maxLength = lengthOf value := by
  obtain ⟨r, dataType, hr, rfl⟩ := v.exists_source h
  obtain ⟨r', hr', rfl⟩ := hgives
  obtain rfl := Except.ok.inj (hr.symm.trans hr')
  rfl

theorem Visit.default_eq (hgives : v.Gives .default value) :
    c.default =
      if c.valueObject.isSome || !c.scalar.hasLiterals then none else (defaultOf value).value := by
  obtain ⟨r, dataType, hr, rfl⟩ := v.exists_source h
  obtain ⟨r', hr', rfl⟩ := hgives
  obtain rfl := Except.ok.inj (hr.symm.trans hr')
  rw [Source.column_default, Source.column_valueObject, Source.column_scalar]
  rfl

end

/-! ## Tables of visits -/

/-- The visits are those that the document has of this table, and its columns are what they build,
in their order. -/
structure BuiltFrom (overlay : Option Overlay) (m : Mapper) (doc : Json) (t : Table)
    (visits : List Visit) : Prop where
  visited : ∃ root, doc = .object root ∧ (t.name, visits) ∈ documentVisits root
  columns : t.columns = visits.filterMap (Visit.column? overlay m t.name)

theorem columns_of_table? {d : Draft} {t : Table} (h : d.table? overlay m = some t) :
    t.name = d.name ∧ t.columns = d.columns overlay m ∧ d.sources ≠ [] := by
  unfold Draft.table? at h
  split at h
  · cases h
  · next hsources =>
    obtain ⟨-, -, rfl⟩ := Table.make_eq_ok_iff.1 (Layout.ok_iff_toOption.2 h)
    exact ⟨rfl, rfl, fun hnil => hsources (List.isEmpty_iff.2 hnil)⟩

/-- The draft of a table is drawn from its visits. -/
theorem exists_visits_of_mem_drafts {p : Plan} {d : Draft} (hd : d ∈ p.drafts)
    (hsources : d.sources ≠ []) :
    ∃ visits, (d.name, visits) ∈ p.visits ∧
      d.columns overlay m = visits.filterMap (Visit.column? overlay m d.name) := by
  cases p with
  | grouped name key groups =>
    obtain rfl := List.mem_singleton.1 hd
    exact ⟨groupVisits groups, List.mem_singleton_self _,
      columns_groupedDraft overlay name key groups⟩
  | catalog es =>
    obtain ⟨e, he, rfl⟩ := List.mem_map.1 hd
    obtain ⟨he, hname⟩ := List.mem_filter.1 he
    rw [bne_iff_ne] at hname
    have hcolumns : ∃ columns, e.2.field? "columns" = some (.object columns) := by
      by_contra hnone
      refine hsources ?_
      unfold catalogDraft keptColumns tableColumns entriesIn
      split
      · next columns hfield => exact absurd ⟨columns, hfield⟩ hnone
      · rfl
    obtain ⟨columns, hfield⟩ := hcolumns
    have hvisits : catalogVisits? e = some (columns.map fun c => ⟨catalogLayout, false, c⟩) := by
      unfold catalogVisits?
      rw [if_neg (show e.1 ≠ "phinxlog" from hname), hfield]
    exact ⟨_, List.mem_filterMap.2 ⟨e, he, by rw [hvisits]; rfl⟩,
      columns_catalogDraft overlay hfield⟩

/-- Every table of a document is built from its visits. -/
theorem exists_builtFrom {doc : Json} {w : Warned (List Table × Mapper)}
    (h : normalize overlay m doc = .ok w) {t : Table} (ht : t ∈ w.value.1) :
    ∃ visits, BuiltFrom overlay m doc t visits := by
  have hvalue := normalize_value overlay m doc
  rw [h] at hvalue
  cases hplan : planOf doc with
  | error fault => rw [hplan] at hvalue; cases hvalue
  | ok p =>
    rw [hplan] at hvalue
    have htables : w.value.1 = p.drafts.filterMap (Draft.table? overlay m) :=
      Except.ok.inj hvalue
    rw [htables] at ht
    obtain ⟨d, hd, htable⟩ := List.mem_filterMap.1 ht
    obtain ⟨hname, hcolumns, hsources⟩ := columns_of_table? htable
    obtain ⟨visits, hvisits, hbuilt⟩ := exists_visits_of_mem_drafts (m := m) hd hsources
    rw [← hname] at hvisits hbuilt
    obtain ⟨root, hroot, hall⟩ := visits_of_planOf hplan
    exact ⟨visits, ⟨root, hroot, hall ▸ hvisits⟩, hcolumns.trans hbuilt⟩

end

end TableClasses.Schema
