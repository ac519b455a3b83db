import TableClasses.Proofs.Comments
import TableClasses.Proofs.Writing

/-!
# Documents that cannot be normalized

Only the top of a document decides whether it can be normalized; nothing that a table, a group, a
column or its options hold, and neither the overlay nor the mapper, makes it fail. `normalize` gives a
mapper back only with tables. `normalizeInPlace` gives it back after a fault too: every check comes
before the first type is resolved, so a fault finds the mapper as it was.
-/

namespace TableClasses.Schema

open TableClasses.ValueObject

/-- Why a document cannot be normalized. -/
inductive Unfit : Json → SchemaFault → Prop
  | notAMapping {doc : Json} (hdoc : doc.entries? = none) : Unfit doc .notAMapping
  | unnamedTable {root : Entries Json} {name : Json} (hname : root.get? "databaseTable" = some name)
      (husable : namesType name = false) :
    Unfit (.object root) .unnamedTable
  | groupsNotMapping {root : Entries Json} {name groups : Json}
      (hname : root.get? "databaseTable" = some name) (husable : namesType name = true)
      (hgroups : root.get? "databaseCols" = some groups) (hnull : groups ≠ .null)
      (hentries : groups.entries? = none) :
    Unfit (.object root) .groupsNotMapping
  | tablesNotMapping {root : Entries Json} {tables : Json}
      (hname : root.get? "databaseTable" = none) (htables : root.get? "tables" = some tables)
      (hentries : tables.entries? = none) :
    Unfit (.object root) .tablesNotMapping

/-! ## The plan of a document -/

theorem textOf?_eq_none_iff (v : Json) : textOf? v = none ↔ namesType v = false := by
  rw [← isSome_textOf?, Option.isSome_eq_false_iff, Option.isNone_iff_eq_none]

theorem groupsOf_eq_error_iff (root : Entries Json) (f : SchemaFault) :
    groupsOf root = .error f ↔
      f = .groupsNotMapping ∧
        ∃ groups, root.get? "databaseCols" = some groups ∧ groups ≠ .null ∧
          groups.entries? = none := by
  unfold groupsOf
  cases root.get? "databaseCols" with
  | none => simp
  | some groups => cases groups <;> simp [Json.entries?, eq_comm]

theorem catalogEntries_eq_error_iff (root : Entries Json) (f : SchemaFault) :
    catalogEntries root = .error f ↔
      f = .tablesNotMapping ∧
        ∃ tables, root.get? "tables" = some tables ∧ tables.entries? = none := by
  unfold catalogEntries
  cases root.get? "tables" with
  | none => simp
  | some tables => cases tables <;> simp [Json.entries?, eq_comm]

theorem map_eq_error_iff {ε α β : Type} (g : α → β) (r : Except ε α) (f : ε) :
    r.map g = .error f ↔ r = .error f := by
  cases r <;> simp [Except.map]

section
variable {root : Entries Json} {f : SchemaFault}

theorem unfit_catalog_iff (hname : root.get? "databaseTable" = none) :
    Unfit (.object root) f ↔
      f = .tablesNotMapping ∧ ∃ tables, root.get? "tables" = some tables ∧
        tables.entries? = none := by
  constructor
  · intro h
    cases h with
    | notAMapping hdoc => cases hdoc
    | unnamedTable hname' | groupsNotMapping hname' => simp [hname] at hname'
    | tablesNotMapping _ htables hentries => exact ⟨rfl, _, htables, hentries⟩
  · rintro ⟨rfl, tables, htables, hentries⟩
    exact .tablesNotMapping hname htables hentries

theorem unfit_grouped_iff {name : Json} (hname : root.get? "databaseTable" = some name) :
    Unfit (.object root) f ↔
      if namesType name then
        f = .groupsNotMapping ∧ ∃ groups, root.get? "databaseCols" = some groups ∧
          groups ≠ .null ∧ groups.entries? = none
      else f = .unnamedTable := by
  constructor
  · intro h
    cases h with
    | notAMapping hdoc => cases hdoc
    | unnamedTable hname' husable =>
      obtain rfl := Option.some.inj (hname.symm.trans hname')
      rw [husable]
      rfl
    | groupsNotMapping hname' husable hgroups hnull hentries =>
      obtain rfl := Option.some.inj (hname.symm.trans hname')
      rw [if_pos husable]
      exact ⟨rfl, _, hgroups, hnull, hentries⟩
    | tablesNotMapping hname' => simp [hname] at hname'
  · by_cases husable : namesType name = true
    · rw [if_pos husable]
      rintro ⟨rfl, groups, hgroups, hnull, hentries⟩
      exact .groupsNotMapping hname husable hgroups hnull hentries
    · rw [if_neg husable]
      rintro rfl
      exact .unnamedTable hname (Bool.not_eq_true _ ▸ husable)

end

theorem planOf_object_eq_error_iff (root : Entries Json) (f : SchemaFault) :
    planOf (.object root) = .error f ↔ Unfit (.object root) f := by
  cases hname : root.get? "databaseTable" with
  | none =>
    have hshape := @shapeOf_catalog root (by rw [Entries.has, hname]; rfl)
    rw [planOf_catalog hshape, map_eq_error_iff, catalogEntries_eq_error_iff,
      unfit_catalog_iff hname]
  | some v =>
    have hshape := @shapeOf_grouped root (by rw [Entries.has, hname]; rfl)
    rw [planOf_grouped hshape, hname, Option.bind_some, unfit_grouped_iff hname]
    cases htext : textOf? v with
    | none => simp [(textOf?_eq_none_iff v).1 htext, eq_comm]
    | some name =>
      have husable : namesType v = true := by rw [← isSome_textOf?, htext]; rfl
      rw [if_pos husable]
      simp only [map_eq_error_iff, groupsOf_eq_error_iff]

theorem planOf_eq_error_iff (doc : Json) (f : SchemaFault) :
    planOf doc = .error f ↔ Unfit doc f := by
  cases hdoc : doc.entries? with
  | some root =>
    cases doc with
    | object root => exact planOf_object_eq_error_iff root f
    | _ => cases hdoc
  | none =>
    have hplan : planOf doc = .error .notAMapping := by
      cases doc with
      | object root => cases hdoc
      | _ => rfl
    rw [hplan]
    constructor
    · rintro ⟨⟩
      exact .notAMapping hdoc
    · intro h
      cases h with
      | notAMapping => rfl
      | unnamedTable | groupsNotMapping | tablesNotMapping => cases hdoc

theorem normalize_eq_error_iff (overlay : Option Overlay) (m : Mapper) (doc : Json)
    (f : SchemaFault) : normalize overlay m doc = .error f ↔ Unfit doc f := by
  rw [← planOf_eq_error_iff, normalize_eq, map_eq_error_iff]

/-! ## Normalizing in place -/

/-- A run gives what `normalize` gives, or ends with its fault and leaves the mapper. -/
theorem normalizeInPlace_run_eq (overlay : Option Overlay) (m : Mapper) (doc : Json) :
    (normalizeInPlace overlay doc).run m =
      match normalize overlay m doc with
      | .ok w => ⟨(.ok w.value.1, w.value.2), w.warnings⟩
      | .error fault => ⟨(.error fault, m), []⟩ := by
  rw [normalizeInPlace_run, normalize_eq]
  cases planOf doc <;> rfl

theorem normalizeInPlace_eq_error_iff (overlay : Option Overlay) (m m' : Mapper) (doc : Json)
    (f : SchemaFault) :
    ((normalizeInPlace overlay doc).run m).value = (.error f, m') ↔ Unfit doc f ∧ m' = m := by
  rw [normalizeInPlace_run_eq, ← normalize_eq_error_iff overlay m]
  cases normalize overlay m doc with
  | ok w => simp
  | error fault => simp [eq_comm]

/-- A document is refused exactly if it is unfit, whatever the overlay and the mapper are; the run
then ends with the error of an invalid schema, and a mapper that is shared is as it was. -/
theorem unfit_iff_refused (overlay : Option Overlay) (m : Mapper) (doc : Json) :
    (∀ f, normalize overlay m doc = .error f ↔ Unfit doc f) ∧
      (∀ (d : Disk) e,
        (Run.orFail .schema (normalize overlay m doc) : Run (StateM Disk) _).endOn d = .error e ↔
          ∃ f, e = .schema f ∧ Unfit doc f) ∧
      (∀ f m', ((normalizeInPlace overlay doc).run m).value = (.error f, m') ↔
        Unfit doc f ∧ m' = m) ∧
      ∀ w, normalize overlay m doc = .ok w ↔
        (normalizeInPlace overlay doc).run m = ⟨(.ok w.value.1, w.value.2), w.warnings⟩ := by
  refine ⟨normalize_eq_error_iff overlay m doc, fun d e => ?_,
    fun f m' => normalizeInPlace_eq_error_iff overlay m m' doc f, fun w => ?_⟩
  · simp only [← normalize_eq_error_iff overlay m]
    cases normalize overlay m doc with
    | ok w => exact ⟨nofun, fun ⟨_, _, h⟩ => nomatch h⟩
    | error fault =>
      show Except.error (Error.schema fault) = Except.error e ↔ _
      simp [eq_comm]
  · rw [normalizeInPlace_run_eq]
    cases normalize overlay m doc with
    | ok w' =>
      obtain ⟨⟨tables, after⟩, warnings⟩ := w
      obtain ⟨⟨tables', after'⟩, warnings'⟩ := w'
      simp
    | error fault => simp

end TableClasses.Schema
