import Mathlib.Data.List.Nodup
import TableClasses.Table

/-!
# Which columns make a table

`Table.make` looks at one column after the other. It accepts exactly the columns whose fields differ
in more than case, with a key that is one of them; that the names differ follows, since columns of
one name have one field.
-/

namespace TableClasses

theorem Column.fieldKey_of_name_eq {a b : Column} (h : a.name = b.name) :
    a.fieldKey = b.fieldKey := by
  unfold fieldKey field
  rw [h]

namespace Table

theorem clash?_eq_none_iff (table : String) (seen columns : List Column) :
    clash? table seen columns = none ↔
      (∀ c ∈ columns, ∀ s ∈ seen, s.fieldKey ≠ c.fieldKey) ∧
        (columns.map Column.fieldKey).Nodup := by
  induction columns generalizing seen with
  | nil => simp [clash?]
  | cons c rest ih =>
    unfold clash?
    by_cases hseen : ∀ s ∈ seen, s.fieldKey ≠ c.fieldKey
    · have hname : seen.any (·.name == c.name) = false := by
        rw [List.any_eq_false]
        intro s hs he
        exact hseen s hs (Column.fieldKey_of_name_eq (by simpa using he))
      have hfield : seen.find? (·.fieldKey == c.fieldKey) = none := by
        rw [List.find?_eq_none]
        intro s hs
        simpa using hseen s hs
      rw [if_neg (by simp [hname]), hfield]
      simp only [ih, List.forall_mem_append, List.forall_mem_singleton, List.forall_mem_cons,
        List.map_cons, List.nodup_cons, List.mem_map]
      constructor
      · rintro ⟨hrest, hnodup⟩
        refine ⟨⟨hseen, fun d hd => (hrest d hd).1⟩, ?_, hnodup⟩
        rintro ⟨d, hd, he⟩
        exact (hrest d hd).2 he.symm
      · rintro ⟨⟨_, hrest⟩, hc, hnodup⟩
        exact ⟨fun d hd => ⟨hrest d hd, fun he => hc ⟨d, hd, he.symm⟩⟩, hnodup⟩
    · have hnot : ¬ ∀ d ∈ c :: rest, ∀ s ∈ seen, s.fieldKey ≠ d.fieldKey :=
        fun h => hseen (h c List.mem_cons_self)
      simp only [hnot, false_and, iff_false]
      split
      · simp
      · split
        · simp
        · next hfind =>
          refine absurd ?_ hseen
          intro s hs
          simpa using List.find?_eq_none.1 hfind s hs

theorem make_eq_ok_iff {name : String} {columns : List Column} {key : Option String} {t : Table} :
    make name columns key = .ok t ↔
      (columns.map Column.fieldKey).Nodup ∧ (∀ k ∈ key, ∃ c ∈ columns, c.name = k) ∧
        t = ⟨name, columns, key⟩ := by
  unfold make
  cases hclash : clash? name [] columns with
  | some fault =>
    have hnot : ¬ (columns.map Column.fieldKey).Nodup := by
      intro h
      have := (clash?_eq_none_iff name [] columns).2 ⟨by simp, h⟩
      rw [hclash] at this
      cases this
    simp [hnot]
  | none =>
    have hnodup := ((clash?_eq_none_iff name [] columns).1 hclash).2
    cases key with
    | none => simp [hnodup, eq_comm]
    | some k =>
      simp only [hnodup, true_and, Option.mem_def, Option.some.injEq, forall_eq']
      split
      · next hk =>
        have hmem : ∃ c ∈ columns, c.name = k := by simpa using hk
        simp only [hmem, true_and, Except.ok.injEq]
        exact eq_comm
      · next hk =>
        have hmem : ¬ ∃ c ∈ columns, c.name = k := by simpa using hk
        simp [hmem]

/-- With a key that is one of them, columns make a table exactly where their fields differ. -/
theorem toOption_make {name : String} {columns : List Column} {key : Option String}
    (hkey : ∀ k ∈ key, ∃ c ∈ columns, c.name = k) :
    (make name columns key).toOption
      = if (columns.map Column.fieldKey).Nodup then some ⟨name, columns, key⟩ else none := by
  split
  · next hfields =>
    rw [make_eq_ok_iff.2 ⟨hfields, hkey, rfl⟩]
    rfl
  · next hfields =>
    cases hmake : make name columns key with
    | error fault => rfl
    | ok t => exact absurd (make_eq_ok_iff.1 hmake).1 hfields

section
variable {name : String} {columns : List Column} {key : Option String} {t : Table}
  (h : make name columns key = .ok t)

include h

theorem nodup_fieldKeys : (t.columns.map Column.fieldKey).Nodup := by
  obtain ⟨hnodup, -, rfl⟩ := make_eq_ok_iff.1 h
  exact hnodup

theorem nodup_fields : (t.columns.map Column.field).Nodup := by
  refine List.Nodup.of_map Text.lowerText ?_
  rw [List.map_map]
  exact nodup_fieldKeys h

theorem nodup_names : (t.columns.map (·.name)).Nodup := by
  refine List.Nodup.of_map (fun name => Text.lowerText (Naming.camel name)) ?_
  rw [List.map_map]
  exact nodup_fieldKeys h

theorem field_ne_of_readOnly {c d : Column} (hc : c ∈ t.readWrite) (hd : d ∈ t.readOnly) :
    d.field ≠ c.field := by
  intro he
  obtain ⟨hc, hw⟩ := List.mem_filter.1 hc
  obtain ⟨hd, hr⟩ := List.mem_filter.1 hd
  obtain rfl := List.inj_on_of_nodup_map (nodup_fields h) hd hc he
  rw [hr] at hw
  cases hw

end

end Table

end TableClasses
