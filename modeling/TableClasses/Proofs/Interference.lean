import TableClasses.Proofs.WriteHistory

/-!
# Classes in each other's way

A class fares `AsAlone` in a run if what becomes of it is what may become of it on the disk as it was
before the run. All classes of a run do so exactly if it is a dry run or their paths are different:
the paths of others are framed off by `WritesAll.frame`, and two classes of one path cannot both be
created.
-/

namespace TableClasses.Output

open TableClasses.Files TableClasses.Classes

/-- What becomes of a class is what may become of it on the disk as it was before the run, where
only faults that this disk foresaw may hinder it. -/
def AsAlone (o : Options) (before after : Disk) (f : Generated) (e : Entry) : Prop :=
  ∃ faults d', faults <:+ before.faults ∧
    Writes o f.className f.content { before with faults } e d' ∧
    after.files.get? (o.pathOf f.className) = d'.files.get? (o.pathOf f.className)

namespace WritesAll

variable {o : Options} {d d' : Disk} {files : List Generated} {entries : List Entry}

/-- The disk before the run is held fixed; what the run at hand needs of it are the paths of the
classes still to come. -/
theorem asAlone_of_nodup (h : WritesAll o d files entries d') (hpaths : (paths o files).Nodup)
    {before : Disk} (hfaults : d.faults <:+ before.faults)
    (hfiles : ∀ path ∈ paths o files, d.files.get? path = before.files.get? path) :
    List.Forall₂ (AsAlone o before d') files entries := by
  induction h with
  | nil => exact .nil
  | @cons d d₁ d' f files e entries hfirst hrest ih =>
    obtain ⟨hnew, hpaths⟩ := List.nodup_cons.1 hpaths
    refine .cons ?_ (ih hpaths (hfirst.faults_suffix.trans hfaults) fun path hpath => ?_)
    · have hsame : ({ before with faults := d.faults } : Disk).files.get? (o.pathOf f.className)
          = d.files.get? (o.pathOf f.className) := (hfiles _ List.mem_cons_self).symm
      obtain ⟨d₁', halone, hheld⟩ := hfirst.transfer hsame rfl
      exact ⟨d.faults, d₁', hfaults, halone, (hrest.frame hnew).trans hheld.symm⟩
    · have hne : path ≠ o.pathOf f.className := by
        rintro rfl
        exact hnew hpath
      rw [hfirst.frame hne]
      exact hfiles path (List.mem_cons_of_mem _ hpath)

theorem asAlone_of_dryRun (h : WritesAll o d files entries d') (hdry : o.dryRun = true) :
    List.Forall₂ (AsAlone o d d) files entries := by
  induction h with
  | nil => exact .nil
  | cons hfirst _ ih =>
    obtain rfl := hfirst.state_of_dryRun hdry
    exact .cons ⟨_, _, List.suffix_rfl, hfirst, rfl⟩ ih

/-- No path is created twice, so classes that are all created have different paths. -/
theorem nodup_of_created (h : WritesAll o d files entries d')
    (hcreated : ∀ e ∈ entries, e.outcome = .created) : (paths o files).Nodup := by
  have hall : entries.filter (·.outcome == .created) = entries :=
    List.filter_eq_self.2 fun e he => beq_iff_eq.2 (hcreated e he)
  rw [← h.map_path, ← hall]
  exact h.nodup_created

end WritesAll

/-- Classes that fare as alone on an empty disk that takes all writes are all created. -/
theorem created_of_empty {o : Options} (hdry : o.dryRun = false) {after : Disk}
    {files : List Generated} {entries : List Entry}
    (h : List.Forall₂ (AsAlone o {} after) files entries) :
    ∀ e ∈ entries, e.outcome = .created := by
  induction h with
  | nil => simp
  | cons halone _ ih =>
    obtain ⟨faults, d', hfaults, hwrites, -⟩ := halone
    obtain rfl := List.suffix_nil.1 hfaults
    exact List.forall_mem_cons.2 ⟨hwrites.outcome_of_no_faults hdry rfl, ih⟩

/-- Whether no class of a run replaces or blocks another one. -/
theorem Options.asAlone_iff (o : Options) (files : List Generated) :
    (∀ d : Disk,
      List.Forall₂ (AsAlone o d (o.writeAllOn files d).2) files (o.writeAllOn files d).1) ↔
      o.dryRun = true ∨ (WritesAll.paths o files).Nodup := by
  constructor
  · intro h
    by_cases hdry : o.dryRun = true
    · exact .inl hdry
    · rw [Bool.not_eq_true] at hdry
      exact .inr ((o.writeAll_spec files {}).nodup_of_created (created_of_empty hdry (h {})))
  · rintro (hdry | hpaths) d
    · have hrun := o.writeAll_spec files d
      rw [hrun.state_of_dryRun hdry]
      exact hrun.asAlone_of_dryRun hdry
    · exact (o.writeAll_spec files d).asAlone_of_nodup hpaths List.suffix_rfl fun _ _ => rfl

/-- Of two classes with one path the second replaces the first, or is not written. -/
theorem Options.outcomes_of_samePath (o : Options) (hdry : o.dryRun = false) {f g : Generated}
    (h : o.pathOf f.className = o.pathOf g.className) {d : Disk} (hfaults : d.faults = [])
    (habsent : d.files.has (o.pathOf f.className) = false) :
    (o.writeAllOn [f, g] d).1.map (·.outcome)
      = [.created, if o.force then .overwritten else .skipped] := by
  have hrun := o.writeAll_spec [f, g] d
  generalize o.writeAllOn [f, g] d = r at hrun
  obtain ⟨entries, d'⟩ := r
  cases hrun with
  | @cons _ d₁ _ _ _ first _ hf hrest =>
    cases hrest with
    | @cons _ _ _ _ _ second _ hg hrest =>
      cases hrest
      have hcreated : first.outcome = .created := by
        rw [hf.outcome_of_no_faults hdry hfaults, habsent]
        rfl
      have hfaults' : d₁.faults = [] := List.suffix_nil.1 (hfaults ▸ hf.faults_suffix)
      have hsecond := hg.outcome_of_no_faults hdry hfaults'
      rw [← h, (hf.of_created hcreated).2, if_pos rfl] at hsecond
      simp [hcreated, hsecond]

end TableClasses.Output
