import Mathlib.Data.List.Induction
import TableClasses.Proofs.Tables

/-!
# Why columns make no table

Columns are `Apart` if no two of them have one name, or fields that differ in case at most. Of
columns that are not, there is a first that clashes with an earlier one, and the fault is about this
column: `clash?` passes over the columns before it and stops there. `Refused` has a case for each
fault; the key comes last, when all columns are apart.
-/

namespace TableClasses

/-- Both columns have one name, or fields that differ in case at most. -/
def Column.Clashes (c d : Column) : Prop := c.name = d.name ∨ c.fieldKey = d.fieldKey

namespace Table

def Apart (columns : List Column) : Prop := columns.Pairwise fun c d => ¬ c.Clashes d

/-- The first column that clashes with an earlier one, and all that come before it. -/
structure FirstClash (columns before : List Column) (c : Column) : Prop where
  apart : Apart before
  clashes : ∃ s ∈ before, s.Clashes c
  split : ∃ after, columns = before ++ c :: after

/-- Why there is no table of these columns with this key. -/
inductive Refused (name : String) (columns : List Column) (key : Option String) : TableFault → Prop
  | repeated {before : List Column} {c : Column} (h : FirstClash columns before c)
      (hname : c.name ∈ before.map (·.name)) :
    Refused name columns key (.repeated name c.name)
  | sameField {before : List Column} {c other : Column} (h : FirstClash columns before c)
      (hname : c.name ∉ before.map (·.name)) (hother : other ∈ before)
      (hfield : other.fieldKey = c.fieldKey) :
    Refused name columns key (.sameField name other.name c.name c.field)
  | unknownKey {k : String} (hcolumns : Apart columns) (hkey : key = some k)
      (hk : k ∉ columns.map (·.name)) :
    Refused name columns key (.unknownKey name k)

/-! ## Columns apart -/

theorem apart_iff (columns : List Column) :
    Apart columns ↔ (columns.map (·.name)).Nodup ∧ (columns.map Column.fieldKey).Nodup := by
  simp only [Apart, Column.Clashes, not_or, List.pairwise_and_iff, List.Nodup, List.pairwise_map,
    ne_eq]

theorem apart_iff_nodup_fieldKeys (columns : List Column) :
    Apart columns ↔ (columns.map Column.fieldKey).Nodup := by
  rw [apart_iff, and_iff_right_iff_imp]
  intro h
  refine List.Nodup.of_map (fun name => Text.lowerText (Naming.camel name)) ?_
  rwa [List.map_map]

theorem apart_concat (columns : List Column) (c : Column) :
    Apart (columns ++ [c]) ↔ Apart columns ∧ ¬ ∃ s ∈ columns, s.Clashes c := by
  simp [Apart, List.pairwise_append]

/-- Columns are apart, or one of them is the first to clash. -/
theorem apart_or_firstClash (columns : List Column) :
    Apart columns ∨ ∃ before c, FirstClash columns before c := by
  induction columns using List.reverseRecOn with
  | nil => exact .inl .nil
  | append_singleton columns c ih =>
    obtain hapart | ⟨before, d, h⟩ := ih
    · by_cases hc : ∃ s ∈ columns, s.Clashes c
      · exact .inr ⟨columns, c, hapart, hc, [], rfl⟩
      · exact .inl ((apart_concat columns c).2 ⟨hapart, hc⟩)
    · obtain ⟨after, rfl⟩ := h.split
      exact .inr ⟨before, d, h.apart, h.clashes, after ++ [c], by simp⟩

/-! ## Looking for a clash -/

theorem find?_fieldKey {seen : List Column} (hseen : Apart seen) {other : Column}
    (hother : other ∈ seen) {key : String} (hkey : other.fieldKey = key) :
    seen.find? (·.fieldKey == key) = some other := by
  have hnodup := (apart_iff_nodup_fieldKeys seen).1 hseen
  cases hfind : seen.find? (·.fieldKey == key) with
  | none => simpa [hkey] using List.find?_eq_none.1 hfind other hother
  | some found =>
    have hfound : found.fieldKey = key := by simpa using List.find?_some hfind
    exact congrArg some (List.inj_on_of_nodup_map hnodup (List.mem_of_find?_eq_some hfind) hother
      (hfound.trans hkey.symm))

section
variable (table : String) {seen : List Column} {c : Column}

/-- The step: a column that clashes with none before it is passed over. -/
theorem clash?_cons (h : ¬ ∃ s ∈ seen, s.Clashes c) (rest : List Column) :
    clash? table seen (c :: rest) = clash? table (seen ++ [c]) rest := by
  have hname : seen.any (·.name == c.name) = false := by
    rw [List.any_eq_false]
    exact fun s hs he => h ⟨s, hs, .inl (by simpa using he)⟩
  have hfield : seen.find? (·.fieldKey == c.fieldKey) = none := by
    rw [List.find?_eq_none]
    exact fun s hs he => h ⟨s, hs, .inr (by simpa using he)⟩
  rw [clash?, hname, hfield]
  rfl

/-- The run: columns that are apart are passed over. -/
theorem clash?_append {before : List Column} (h : Apart (seen ++ before)) (rest : List Column) :
    clash? table seen (before ++ rest) = clash? table (seen ++ before) rest := by
  induction before generalizing seen with
  | nil => rw [List.nil_append, List.append_nil]
  | cons d before ih =>
    rw [List.append_cons] at h ⊢
    have hfirst := (apart_concat seen d).1 (List.pairwise_append.1 h).1
    rw [List.cons_append, clash?_cons table hfirst.2, ih h]

theorem clash?_cons_of_name (hname : c.name ∈ seen.map (·.name)) (rest : List Column) :
    clash? table seen (c :: rest) = some (.repeated table c.name) := by
  have hany : seen.any (·.name == c.name) = true := by simpa using hname
  rw [clash?, if_pos hany]

theorem clash?_cons_of_fieldKey (hseen : Apart seen) (hname : c.name ∉ seen.map (·.name))
    {other : Column} (hother : other ∈ seen) (hfield : other.fieldKey = c.fieldKey)
    (rest : List Column) :
    clash? table seen (c :: rest) = some (.sameField table other.name c.name c.field) := by
  have hany : ¬ seen.any (·.name == c.name) = true := by simpa using hname
  rw [clash?, if_neg hany, find?_fieldKey hseen hother hfield]

end

/-! ## Tables and faults -/

section
variable {name : String} {columns : List Column} {key : Option String}

theorem make_of_clash? {fault : TableFault} (h : clash? name [] columns = some fault) :
    make name columns key = .error fault := by
  unfold make
  rw [h]

theorem clash?_firstClash {before : List Column} {c : Column} (h : FirstClash columns before c) :
    ∃ rest, clash? name [] columns = clash? name before (c :: rest) := by
  obtain ⟨rest, rfl⟩ := h.split
  have hbefore : Apart ([] ++ before) := h.apart
  exact ⟨rest, clash?_append name hbefore (c :: rest)⟩

theorem make_of_refused {fault : TableFault} (h : Refused name columns key fault) :
    make name columns key = .error fault := by
  cases h with
  | repeated h hname =>
    obtain ⟨rest, hclash⟩ := clash?_firstClash h
    exact make_of_clash? (hclash.trans (clash?_cons_of_name name hname rest))
  | sameField h hname hother hfield =>
    obtain ⟨rest, hclash⟩ := clash?_firstClash h
    exact make_of_clash?
      (hclash.trans (clash?_cons_of_fieldKey name h.apart hname hother hfield rest))
  | @unknownKey k hcolumns hkey hk =>
    have hclash : clash? name [] columns = none :=
      (clash?_eq_none_iff name [] columns).2
        ⟨by simp, (apart_iff_nodup_fieldKeys columns).1 hcolumns⟩
    have hany : ¬ columns.any (·.name == k) = true := by simpa using hk
    unfold make
    rw [hclash, hkey]
    exact if_neg hany

theorem ok_or_refused (name : String) (columns : List Column) (key : Option String) :
    make name columns key = .ok ⟨name, columns, key⟩ ∨ ∃ fault, Refused name columns key fault := by
  obtain hapart | ⟨before, c, h⟩ := apart_or_firstClash columns
  · by_cases hkey : ∃ k, key = some k ∧ k ∉ columns.map (·.name)
    · obtain ⟨k, hk, hnone⟩ := hkey
      exact .inr ⟨_, .unknownKey hapart hk hnone⟩
    · have hknown : ∀ k ∈ key, ∃ c ∈ columns, c.name = k := by
        intro k hk
        by_contra hnone
        exact hkey ⟨k, hk, by simpa using hnone⟩
      exact .inl (make_eq_ok_iff.2 ⟨(apart_iff_nodup_fieldKeys columns).1 hapart, hknown, rfl⟩)
  · by_cases hname : c.name ∈ before.map (·.name)
    · exact .inr ⟨_, .repeated h hname⟩
    · obtain ⟨other, hother, hsame | hfield⟩ := h.clashes
      · exact absurd (hsame ▸ List.mem_map_of_mem hother) hname
      · exact .inr ⟨_, .sameField h hname hother hfield⟩

end

/-- Columns make a table exactly if names differ, fields differ in more than case, and the key is
one of the names; the table is made of them as they are. Otherwise the first column that clashes
with an earlier one is at fault, and the key only where there is none. -/
theorem make_eq_ok_or_refused (name : String) (columns : List Column) (key : Option String) :
    (∀ t, make name columns key = .ok t ↔
      (columns.map (·.name)).Nodup ∧
        (columns.map fun c => Text.lowerText (Naming.camel c.name)).Nodup ∧
        (∀ k, key = some k → k ∈ columns.map (·.name)) ∧ t = ⟨name, columns, key⟩) ∧
      ∀ fault, make name columns key = .error fault ↔ Refused name columns key fault := by
  refine ⟨fun t => ?_, fun fault => ⟨fun h => ?_, make_of_refused⟩⟩
  · have hfields := apart_iff_nodup_fieldKeys columns
    rw [apart_iff] at hfields
    rw [make_eq_ok_iff, ← hfields, and_assoc]
    simp only [Option.mem_def, List.mem_map]
    rfl
  · obtain hok | ⟨fault', h'⟩ := ok_or_refused name columns key
    · rw [hok] at h
      cases h
    · rw [make_of_refused h'] at h
      exact Except.error.inj h ▸ h'

example :
    make "orders" [{ name := "user_id", scalar := .int }, { name := "userId", scalar := .int }] none
      = .error (.sameField "orders" "user_id" "userId" "userId") := by
  decide +kernel

end Table

end TableClasses
