import TableClasses.Proofs.Writing

/-!
# What a run of writes leaves behind

After a run each path holds what was last written to it, and otherwise what it held before. The step
says this of one class (`Writes.get?_after`), for every option and whatever fails; the run is put
together from the steps. What is there stays there, so no path is created twice, and a run that may
not force leaves alone what was there before it.
-/

namespace TableClasses.Output

open TableClasses.Files TableClasses.Classes

/-! ## One class -/

namespace Writes

variable {o : Options} {className content : String} {d d' : Disk} {e : Entry}

theorem path_eq (h : Writes o className content d e d') : e.path = o.pathOf className := by
  cases h <;> rfl

/-- The step: a class that is written sets its path; nothing else changes a disk. -/
theorem get?_after (h : Writes o className content d e d') (path : String) :
    d'.files.get? path =
      if e.outcome.isWritten && e.path == path then some content.toUTF8
      else d.files.get? path := by
  by_cases hpath : path = o.pathOf className
  · subst hpath
    cases h with
    | kept | ready => rfl
    | created _ _ hwrite | overwritten _ _ _ hwrite =>
      rw [Disk.write_ok hwrite, Entries.get?_put_self]
      simp [Outcome.isWritten]
    | failed _ _ hwrite =>
      rw [(Disk.write_error hwrite).1]
      rfl
  · have hother : (e.path == path) = false := by
      rw [h.path_eq, beq_eq_false_iff_ne]
      exact Ne.symm hpath
    rw [h.frame hpath, hother, Bool.and_false, if_neg Bool.false_ne_true]

theorem has_mono (h : Writes o className content d e d') {path : String}
    (hpath : d.files.has path = true) : d'.files.has path = true := by
  unfold Entries.has at hpath ⊢
  rw [h.get?_after]
  split
  · rfl
  · exact hpath

theorem of_overwritten (h : Writes o className content d e d') (he : e.outcome = .overwritten) :
    d.files.has e.path = true ∧ o.force = true := by
  cases h with
  | kept | ready | created | failed => cases he
  | overwritten hpresent hforce => exact ⟨hpresent, hforce⟩

/-- Without force, what is there is left alone. -/
theorem get?_of_present (h : Writes o className content d e d') (hforce : o.force = false)
    {path : String} (hpath : d.files.has path = true) :
    d'.files.get? path = d.files.get? path := by
  by_cases hown : path = o.pathOf className
  · subst hown
    cases h with
    | kept | ready => rfl
    | created habsent => simp [habsent] at hpath
    | overwritten _ hforced => simp [hforce] at hforced
    | failed _ _ hwrite => rw [(Disk.write_error hwrite).1]
  · exact h.frame hown

end Writes

/-! ## All classes of a run -/

/-- The last class of a run that was written to a path. -/
def lastWritten (path : String) (run : List (Generated × Entry)) : Option Generated :=
  (run.findRev? fun p => p.2.outcome.isWritten && p.2.path == path).map (·.1)

namespace WritesAll

variable {o : Options} {d d' : Disk} {files : List Generated} {entries : List Entry}

theorem map_path (h : WritesAll o d files entries d') :
    entries.map (·.path) = paths o files := by
  induction h with
  | nil => rfl
  | cons hfirst _ ih => rw [List.map_cons, ih, hfirst.path_eq]; rfl

/-- The run: what is found at a path is what the last class written there has put, or what was
there before. -/
theorem get?_after (h : WritesAll o d files entries d') (path : String) :
    d'.files.get? path =
      ((lastWritten path (files.zip entries)).map (·.content.toUTF8)).or (d.files.get? path) := by
  induction h with
  | nil => rfl
  | @cons d d₁ d' f files e entries hfirst _ ih =>
    rw [ih, hfirst.get?_after]
    unfold lastWritten
    rw [List.zip_cons_cons, List.findRev?]
    cases (files.zip entries).findRev? fun p => p.2.outcome.isWritten && p.2.path == path with
    | some p => rfl
    | none =>
      by_cases hwritten : (e.outcome.isWritten && e.path == path) = true
      · simp only [hwritten, if_true]
        rfl
      · simp only [hwritten, Bool.false_eq_true, if_false]

theorem get?_of_present (h : WritesAll o d files entries d') (hforce : o.force = false)
    {path : String} (hpath : d.files.has path = true) :
    d'.files.get? path = d.files.get? path := by
  induction h with
  | nil => rfl
  | cons hfirst _ ih => rw [ih (hfirst.has_mono hpath), hfirst.get?_of_present hforce hpath]

theorem force_of_overwritten (h : WritesAll o d files entries d') {e : Entry} (he : e ∈ entries)
    (hover : e.outcome = .overwritten) : o.force = true := by
  induction h with
  | nil => cases he
  | cons hfirst _ ih =>
    rcases List.mem_cons.1 he with rfl | he
    · exact (hfirst.of_overwritten hover).2
    · exact ih he

/-- What is created at any time of a run was not there at its start. -/
theorem absent_of_created (h : WritesAll o d files entries d') {e : Entry} (he : e ∈ entries)
    (hcreated : e.outcome = .created) : d.files.has e.path = false := by
  induction h with
  | nil => cases he
  | cons hfirst _ ih =>
    rcases List.mem_cons.1 he with rfl | he
    · rw [hfirst.path_eq]
      exact (hfirst.of_created hcreated).1
    · have hlater := ih he
      rw [← Bool.not_eq_true] at hlater ⊢
      exact mt hfirst.has_mono hlater

theorem nodup_created (h : WritesAll o d files entries d') :
    ((entries.filter (·.outcome == .created)).map (·.path)).Nodup := by
  induction h with
  | nil => exact .nil
  | @cons d d₁ d' f files e entries hfirst hrest ih =>
    by_cases hcreated : e.outcome = .created
    · rw [List.filter_cons_of_pos (by simp [hcreated]), List.map_cons, List.nodup_cons]
      refine ⟨fun hmem => ?_, ih⟩
      obtain ⟨e', he', hpath⟩ := List.mem_map.1 hmem
      obtain ⟨hin, houtcome⟩ := List.mem_filter.1 he'
      have habsent := hrest.absent_of_created hin (beq_iff_eq.1 houtcome)
      rw [hpath, hfirst.path_eq, (hfirst.of_created hcreated).2] at habsent
      cases habsent
    · rwa [List.filter_cons_of_neg (by simp [hcreated])]

end WritesAll

/-! ## The disk before each write -/

theorem Options.writeAllOn_cons (o : Options) (f : Generated) (files : List Generated) (d : Disk) :
    o.writeAllOn (f :: files) d =
      let first := (o.write f.className f.content : Reporting (StateM Disk) Entry).runOn d
      let rest := o.writeAllOn files first.2
      (first.1 :: rest.1, rest.2) :=
  o.runOn_writeAll_cons f files d

/-- Every record of a run is that of its class, written to the disk as the classes before it have
left it. -/
theorem Options.writes_getElem? (o : Options) {files : List Generated} {d : Disk} {i : Nat}
    {e : Entry} (h : (o.writeAllOn files d).1[i]? = some e) :
    ∃ f d', files[i]? = some f ∧
      Writes o f.className f.content (o.writeAllOn (files.take i) d).2 e d' := by
  induction files generalizing d i with
  | nil => cases h
  | cons f files ih =>
    rw [writeAllOn_cons] at h
    cases i with
    | zero =>
      obtain rfl : _ = e := Option.some.inj h
      exact ⟨f, _, rfl, o.write_spec f.className f.content d⟩
    | succ i =>
      rw [List.take_succ_cons, writeAllOn_cons]
      exact ih h

/-- What a run of writes does, whatever its options are, whatever is on the disk and whichever
writes fail. -/
theorem Options.writeAll_history (o : Options) (files : List Generated) (d : Disk) :
    let (entries, after) := o.writeAllOn files d
    entries.map (·.path) = WritesAll.paths o files ∧
      (∀ path, after.files.get? path =
        ((lastWritten path (files.zip entries)).map (·.content.toUTF8)).or (d.files.get? path)) ∧
      (o.dryRun = true → after.files = d.files) ∧
      (o.force = false →
        (∀ path, d.files.has path = true → after.files.get? path = d.files.get? path) ∧
          ∀ e ∈ entries, e.outcome ≠ .overwritten) ∧
      ((entries.filter (·.outcome == .created)).map (·.path)).Nodup ∧
      ∀ i e, entries[i]? = some e →
        let before := (o.writeAllOn (files.take i) d).2
        (e.outcome = .created → before.files.has e.path = false) ∧
          (e.outcome = .overwritten → before.files.has e.path = true) := by
  have hrun := o.writeAll_spec files d
  refine ⟨hrun.map_path, hrun.get?_after, fun hdry => ?_, fun hforce => ⟨fun path => ?_, ?_⟩,
    hrun.nodup_created, fun i e he => ?_⟩
  · exact congrArg Disk.files (hrun.state_of_dryRun hdry)
  · exact hrun.get?_of_present hforce
  · intro e he hover
    rw [hrun.force_of_overwritten he hover] at hforce
    cases hforce
  · obtain ⟨f, d', -, hwrites⟩ := o.writes_getElem? he
    refine ⟨fun hcreated => ?_, fun hover => (hwrites.of_overwritten hover).1⟩
    rw [hwrites.path_eq]
    exact (hwrites.of_created hcreated).1

end TableClasses.Output
