import TableClasses.Proofs.ClassNames
import TableClasses.Proofs.Independence
import TableClasses.Proofs.Interference

/-!
# One file for each class

The classes of a run have different names, and different paths, exactly if the names of the tables
differ as capitalized words; then, and in a dry run, no class replaces or blocks another one.
-/

namespace TableClasses

open TableClasses.Text TableClasses.Naming TableClasses.Schema TableClasses.Classes
  TableClasses.Output

/-! ## Rendered classes -/

namespace Classes

section
variable {α β : Type}

theorem value_mapM (f : α → Warned β) (l : List α) :
    (l.mapM f).value = l.map fun a => (f a).value := by
  induction l with
  | nil => rfl
  | cons a l ih => rw [List.mapM_cons, List.map_cons, ← ih]; rfl

section
variable {kinds : List Kind} (hkinds : kinds.Nodup) {f : Kind → α → β} {g : α → String}
  (hf : ∀ k t l u, f k t = f l u ↔ k = l ∧ g t = g u)

include hkinds hf

/-- Classes are as different as their tables where a class tells its kind and, up to `g`, its
table. -/
theorem nodup_flatMap_tagged (tables : Kind → List α) :
    (kinds.flatMap fun k => (tables k).map (f k)).Nodup ↔
      ∀ k ∈ kinds, ((tables k).map g).Nodup := by
  have hkind : ∀ k, ((tables k).map (f k)).Nodup ↔ ((tables k).map g).Nodup := by
    intro k
    simp only [List.Nodup, List.pairwise_map, ne_eq, hf, true_and]
  rw [List.nodup_flatMap]
  constructor
  · rintro ⟨h, -⟩ k hk
    exact (hkind k).1 (h k hk)
  · intro h
    refine ⟨fun k hk => (hkind k).2 (h k hk), hkinds.imp fun {k l} hkl => ?_⟩
    intro a hk hl
    obtain ⟨t, -, rfl⟩ := List.mem_map.1 hk
    obtain ⟨u, -, he⟩ := List.mem_map.1 hl
    exact hkl ((hf k t l u).1 he.symm).1

theorem nodup_flatMap_kinds (hne : kinds ≠ []) (tables : List α) :
    (kinds.flatMap fun k => tables.map (f k)).Nodup ↔ (tables.map g).Nodup := by
  obtain ⟨k, hk⟩ := List.exists_mem_of_ne_nil kinds hne
  rw [nodup_flatMap_tagged hkinds hf fun _ => tables]
  exact ⟨fun h => h k hk, fun h _ _ => h⟩

end

end

theorem nodup_request (names : List String) : (Kind.request names).1.Nodup := by
  refine List.foldlRecOn names _
    (motive := fun acc : List Kind × List String => acc.1.Nodup) List.nodup_nil ?_
  rintro ⟨kinds, unknown⟩ hkinds n -
  cases Kind.ofName? n with
  | none => exact hkinds
  | some k =>
    by_cases hk : k ∈ kinds
    · simpa [hk] using hkinds
    · simpa [hk] using hkinds.concat hk

theorem renderAll_value (r : Rendering) (kinds : List Kind) (tables : List Table) :
    (renderAll r kinds tables).value
      = kinds.flatMap fun k => tables.map fun t => (render r k t).value := by
  unfold renderAll
  simp only [Warned.value_bind, value_mapM, Warned.value_pure]
  rfl

theorem className_render (r : Rendering) (k : Kind) (t : Table) :
    (render r k t).value.className = (Names.ofTable r.baseNamespace t.name).fullName k :=
  className_build r k t

end Classes

namespace Settings

theorem validate_iff {s : Settings} {d : Disk} :
    (s.validate : Run (StateM Disk) Unit).endOn d = .ok () ↔
      s.schemaFile ≠ "" ∧ d.files.has s.schemaFile = true ∧
        trimBackslashes s.rendering.baseNamespace ≠ "" ∧ s.kinds.value ≠ [] := by
  unfold validate
  simp only [Run.endOn_ite, Run.endOn_throw_bind, Run.endOn_act_bind, Run.endOn_report_bind,
    Run.endOn_throw, Run.endOn_pure]
  -- only now the disk: before, the steps would not be recognized under rewritten tests
  simp only [Disk.run_present]
  by_cases hfile : s.schemaFile = "" <;> by_cases hpresent : d.files.has s.schemaFile = true <;>
    by_cases hbase : trimBackslashes s.rendering.baseNamespace = "" <;>
      simp [hfile, hpresent, hbase]

theorem nodup_kinds (s : Settings) : s.kinds.value.Nodup := by
  have hkinds : s.kinds.value = (Kind.request s.artifacts).1 := rfl
  rw [hkinds]
  exact nodup_request s.artifacts

variable (s : Settings) (tables : List Table)

theorem classNames_renderTables :
    (s.renderTables tables).value.map (·.className) = s.kinds.value.flatMap fun k =>
      tables.map fun t => (Names.ofTable s.rendering.baseNamespace t.name).fullName k := by
  unfold renderTables
  simp [renderAll_value, List.map_flatMap, className_render, Function.comp_def]

theorem paths_renderTables :
    WritesAll.paths s.output (s.renderTables tables).value = s.kinds.value.flatMap fun k =>
      tables.map fun t =>
        s.output.pathOf ((Names.ofTable s.rendering.baseNamespace t.name).fullName k) := by
  have hpaths : WritesAll.paths s.output (s.renderTables tables).value
      = ((s.renderTables tables).value.map (·.className)).map s.output.pathOf := by
    rw [List.map_map]
    rfl
  rw [hpaths, classNames_renderTables, List.map_flatMap]
  simp only [List.map_map]
  rfl

section
variable {s} (hkinds : s.kinds.value ≠ [])

include hkinds

theorem nodup_classNames :
    ((s.renderTables tables).value.map (·.className)).Nodup ↔
      (tables.map fun t => pascal t.name).Nodup := by
  rw [classNames_renderTables]
  refine nodup_flatMap_kinds s.nodup_kinds ?_ hkinds tables
  intro k t l u
  exact fullName_inj

theorem nodup_paths :
    (WritesAll.paths s.output (s.renderTables tables).value).Nodup ↔
      (tables.map fun t => pascal t.name).Nodup := by
  rw [paths_renderTables]
  refine nodup_flatMap_kinds s.nodup_kinds ?_ hkinds tables
  intro k t l u
  exact pathOf_fullName_inj s.output

end

/-- Whether the classes of a run have different names, have different paths, and do not get in each
other's way. -/
theorem classes_apart_iff {s : Settings} {d : Disk}
    (h : (s.validate : Run (StateM Disk) Unit).endOn d = .ok ()) (tables : List Table) :
    let files := (s.renderTables tables).value
    let apart := (tables.map fun t => pascal t.name).Nodup
    ((files.map (·.className)).Nodup ↔ apart) ∧
      ((WritesAll.paths s.output files).Nodup ↔ apart) ∧
      ((∀ d : Disk,
        let (entries, after) := s.output.writeAllOn files d
        List.Forall₂ (AsAlone s.output d after) files entries) ↔
          s.output.dryRun = true ∨ apart) := by
  have hkinds : s.kinds.value ≠ [] := (validate_iff.1 h).2.2.2
  have hpaths := nodup_paths tables hkinds
  refine ⟨nodup_classNames tables hkinds, hpaths, ?_⟩
  rw [← hpaths]
  exact s.output.asAlone_iff (s.renderTables tables).value

/-! ## Two tables of one class -/

/-- A disk that holds a schema. -/
def schemaDisk : Disk := { files := [("schema.json", .empty)] }

def shopSettings (force : Bool) : Settings :=
  { schemaFile := "schema.json", artifacts := ["data"], output := { force } }

/-- Tables with these names, each with a number as its only column. -/
def numberedTables (names : List String) : List Table :=
  names.map fun name => ⟨name, [{ name := "id", scalar := .int }], none⟩

theorem classes_apart_shopSettings :
    ((shopSettings true).validate : Run (StateM Disk) Unit).endOn schemaDisk = .ok () ∧
      ∀ d : Disk,
        let files := ((shopSettings true).renderTables
          (numberedTables ["users", "user_orders"])).value
        let (entries, after) := (shopSettings true).output.writeAllOn files d
        List.Forall₂ (AsAlone (shopSettings true).output d after) files entries := by
  have hvalid : ((shopSettings true).validate : Run (StateM Disk) Unit).endOn schemaDisk
      = .ok () := by
    decide +kernel
  exact ⟨hvalid, (classes_apart_iff hvalid (numberedTables ["users", "user_orders"])).2.2.2
    (.inr (by decide +kernel))⟩

/-- A document with two tables whose names differ only in how they set off their words. -/
def twinDocument : Json :=
  let columns : Json := .object [("columns", .object
    [("id", .object [("DATA_TYPE", .string "int")])])]
  tablesDocument [("user_accounts", columns), ("userAccounts", columns)]

def twinTables : List Table := numberedTables ["user_accounts", "userAccounts"]

/-- What becomes of the classes of the two tables in an empty directory. -/
def twinOutcomes (force : Bool) : List Outcome :=
  let s := shopSettings force
  (s.output.writeAllOn (s.renderTables twinTables).value {}).1.map (·.outcome)

theorem twinOutcomes_eq (force : Bool) :
    twinOutcomes force = [.created, if force then .overwritten else .skipped] := by
  have hkinds : (shopSettings force).kinds.value = [.data] := by cases force <;> decide +kernel
  have hpascal : pascal "user_accounts" = pascal "userAccounts" := by decide +kernel
  unfold twinOutcomes
  simp only [renderTables, Warned.value_bind, hkinds, renderAll_value]
  refine Options.outcomes_of_samePath _ rfl ?_ rfl rfl
  rw [className_render, className_render]
  exact (pathOf_fullName_inj _).2 ⟨rfl, hpascal⟩

/-- Both tables are accepted, their classes have one name and one path, and the second class
replaces the first one or is not written. -/
theorem twinTables_clash :
    (normalize none (.ofCatalog (shopSettings true).catalog) twinDocument).map
        (fun w => w.value.1) = .ok twinTables ∧
      ((shopSettings true).validate : Run (StateM Disk) Unit).endOn schemaDisk = .ok () ∧
      ¬ (((shopSettings true).renderTables twinTables).value.map (·.className)).Nodup ∧
      ¬ (WritesAll.paths (shopSettings true).output
        ((shopSettings true).renderTables twinTables).value).Nodup ∧
      twinOutcomes true = [.created, .overwritten] ∧ twinOutcomes false = [.created, .skipped] := by
  have hpascal : ¬ (twinTables.map fun t => pascal t.name).Nodup := by decide +kernel
  have hkinds : (shopSettings true).kinds.value ≠ [] := by decide +kernel
  refine ⟨by decide +kernel, by decide +kernel, ?_, ?_, twinOutcomes_eq true, twinOutcomes_eq false⟩
  · rwa [nodup_classNames twinTables hkinds]
  · rwa [nodup_paths twinTables hkinds]

end Settings

end TableClasses
