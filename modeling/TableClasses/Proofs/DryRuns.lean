import TableClasses.Proofs.Reports

/-!
# What dry runs foretell

A dry run and a run that writes start on the same disk, but only the second one changes it between
two classes. The record of a class `Foretells` that of the same class in the other run as long as
the disks agree on whether its path is there. The run lemma lets the disk of the writing run be ahead
of that of the dry run; the two then keep in step exactly if no path that is missing at first comes
twice, or if writing is forced.
-/

namespace TableClasses

open TableClasses.Naming TableClasses.Files TableClasses.Classes

namespace Output

/-- The record of a class in a dry run says what the other record says of a run that writes. -/
structure Foretells (looked written : Entry) : Prop where
  path : looked.path = written.path
  ready : looked.outcome = .ready ↔ written.outcome.isWritten = true
  skipped : looked.outcome = .skipped ↔ written.outcome = .skipped

/-! ## One class -/

namespace Options

/-- The options of a run that only looks, or of one that writes. -/
def withDryRun (o : Options) (dry : Bool) : Options := { o with dryRun := dry }

@[simp] theorem withDryRun_force (o : Options) (dry : Bool) : (o.withDryRun dry).force = o.force :=
  rfl

@[simp] theorem pathOf_withDryRun (o : Options) (dry : Bool) (className : String) :
    (o.withDryRun dry).pathOf className = o.pathOf className := rfl

end Options

namespace Writes

variable {o : Options} {className content : String} {d d' : Disk} {e : Entry}

theorem outcome_of_dryRun (h : Writes o className content d e d') (hdry : o.dryRun = true) :
    e.outcome =
      if d.files.has (o.pathOf className) && !o.force then .skipped else .ready := by
  cases h with
  | kept hpresent hforce => simp [hpresent, hforce]
  | ready hfree =>
    rcases hfree with habsent | hforce
    · simp [habsent]
    · simp [hforce]
  | created _ hnot | overwritten _ _ hnot | failed _ hnot => simp [hdry] at hnot

/-- On a disk that takes all writes, a class is there once it has been written. -/
theorem has_after (h : Writes o className content d e d') (hdry : o.dryRun = false)
    (hfaults : d.faults = []) (path : String) :
    d'.files.has path = (d.files.has path || path == o.pathOf className) := by
  by_cases hpath : path = o.pathOf className
  · rw [← hpath, beq_self_eq_true, Bool.or_true]
    have houtcome := h.outcome_of_no_faults hdry hfaults
    cases hhas : d.files.has path with
    | true => exact h.has_mono hhas
    | false =>
      rw [← hpath, hhas] at houtcome
      rw [hpath]
      exact (h.of_created houtcome).2
  · rw [Entries.has, h.frame hpath, beq_eq_false_iff_ne.2 hpath, Bool.or_false]
    rfl

end Writes

/-- The step: a dry run foretells a class if writing is forced, or if its path is not there by now
without having been there before. -/
theorem foretells_iff {o : Options} {className content : String} {before after d d' : Disk}
    {looked written : Entry}
    (hlook : Writes (o.withDryRun true) className content before looked after)
    (hwrite : Writes (o.withDryRun false) className content d written d') (hfaults : d.faults = [])
    (hkept : before.files.has (o.pathOf className) = true →
      d.files.has (o.pathOf className) = true) :
    Foretells looked written ↔
      o.force = true ∨ (d.files.has (o.pathOf className) = true →
        before.files.has (o.pathOf className) = true) := by
  have hlooked := hlook.outcome_of_dryRun rfl
  have hwritten := hwrite.outcome_of_no_faults rfl hfaults
  have hpath : looked.path = written.path := by rw [hlook.path_eq, hwrite.path_eq]; rfl
  simp only [Options.withDryRun_force, Options.pathOf_withDryRun] at hlooked hwritten
  have hiff : Foretells looked written ↔
      (looked.outcome = .ready ↔ written.outcome.isWritten = true) ∧
        (looked.outcome = .skipped ↔ written.outcome = .skipped) :=
    ⟨fun h => ⟨h.ready, h.skipped⟩, fun h => ⟨hpath, h.1, h.2⟩⟩
  rw [hiff, hlooked, hwritten]
  by_cases hforce : o.force = true
  · by_cases hnow : d.files.has (o.pathOf className) = true <;> simp [hforce, hnow, Outcome.isWritten]
  · by_cases hnow : d.files.has (o.pathOf className) = true
    · by_cases hbefore : before.files.has (o.pathOf className) = true <;>
        simp [hforce, hnow, hbefore, Outcome.isWritten]
    · simp [hforce, hnow, mt hkept hnow, Outcome.isWritten]

/-! ## All classes of a run -/

namespace WritesAll

variable {o : Options} {before after d d' : Disk} {files : List Generated}
  {looked written : List Entry}

/-- The paths of classes that are not on a disk. -/
def missing (o : Options) (d : Disk) (files : List Generated) : List String :=
  (paths o files).filter fun path => !d.files.has path

theorem missing_cons (f : Generated) (files : List Generated) :
    missing o d (f :: files) =
      if d.files.has (o.pathOf f.className) then missing o d files
      else o.pathOf f.className :: missing o d files := by
  by_cases hpresent : d.files.has (o.pathOf f.className) = true <;> simp [missing, paths, hpresent]

/-- The run: the disk of the run that writes may be ahead of the other one. -/
theorem foretells_iff (hlook : WritesAll (o.withDryRun true) before files looked after)
    (hwrite : WritesAll (o.withDryRun false) d files written d') (hfaults : d.faults = [])
    (hkept : ∀ path, before.files.has path = true → d.files.has path = true) :
    List.Forall₂ Foretells looked written ↔
      o.force = true ∨
        (missing o before files).Nodup ∧
          ∀ path ∈ missing o before files, d.files.has path = false := by
  induction files generalizing before d looked written with
  | nil =>
    cases hlook
    cases hwrite
    simp [missing, paths]
  | cons f files ih =>
    cases hlook with
    | cons hfirst hrest =>
    cases hwrite with
    | @cons _ d₁ _ _ _ _ _ hfirst' hrest' =>
    rw [hfirst.state_of_dryRun rfl] at hrest
    have hafter := hfirst'.has_after rfl hfaults
    have hfaults' : d₁.faults = [] := List.suffix_nil.1 (hfaults ▸ hfirst'.faults_suffix)
    have hkept' : ∀ path, before.files.has path = true → d₁.files.has path = true := by
      intro path hpath
      rw [hafter, hkept path hpath, Bool.true_or]
    rw [List.forall₂_cons, ih hrest hrest' hfaults' hkept',
      Output.foretells_iff hfirst hfirst' hfaults (hkept _)]
    by_cases hforce : o.force = true
    · simp only [hforce, true_or, and_self]
    simp only [hforce, Bool.false_eq_true, false_or]
    by_cases hbefore : before.files.has (o.pathOf f.className) = true
    · have hsame : ∀ path ∈ missing o before files, d₁.files.has path = d.files.has path := by
        intro path hpath
        have hne : path ≠ o.pathOf f.className := by
          rintro rfl
          simp [missing, hbefore] at hpath
        rw [hafter, Options.pathOf_withDryRun, beq_eq_false_iff_ne.2 hne, Bool.or_false]
      rw [missing_cons, if_pos hbefore]
      simp only [hbefore, implies_true, true_and, and_congr_right_iff]
      exact fun _ => forall₂_congr fun path hpath => by rw [hsame path hpath]
    · have hnew : (∀ path ∈ missing o before files, d₁.files.has path = false) ↔
          (∀ path ∈ missing o before files, d.files.has path = false) ∧
            o.pathOf f.className ∉ missing o before files := by
        simp only [hafter, Options.pathOf_withDryRun, Bool.or_eq_false_iff, beq_eq_false_iff_ne]
        exact ⟨fun h => ⟨fun path hpath => (h path hpath).1, fun hmem => (h _ hmem).2 rfl⟩,
          fun h path hpath => ⟨h.1 path hpath, fun he => h.2 (he ▸ hpath)⟩⟩
      rw [missing_cons, if_neg hbefore, hnew, List.nodup_cons, List.forall_mem_cons]
      simp only [hbefore, Bool.false_eq_true, imp_false, Bool.not_eq_true]
      tauto

end WritesAll

/-- Whether a dry run foretells a run on a disk that takes all writes. -/
theorem Options.foretells_writeAllOn_iff (o : Options) (files : List Generated) {d : Disk}
    (hfaults : d.faults = []) :
    List.Forall₂ Foretells ((o.withDryRun true).writeAllOn files d).1
        ((o.withDryRun false).writeAllOn files d).1 ↔
      o.force = true ∨ (WritesAll.missing o d files).Nodup := by
  have hlook := (o.withDryRun true).writeAll_spec files d
  have hwrite := (o.withDryRun false).writeAll_spec files d
  rw [hlook.foretells_iff hwrite hfaults fun _ h => h]
  simp [WritesAll.missing]

end Output

/-! ## Whole runs -/

namespace Settings

open TableClasses.Output

/-- The settings of a run that only looks, or of one that writes. -/
def withDryRun (s : Settings) (dry : Bool) : Settings :=
  { s with output := s.output.withDryRun dry }

/-- The tables of which a class of this kind is not on a disk. -/
def missing (s : Settings) (d : Disk) (k : Kind) (tables : List String) : List String :=
  tables.filter fun t => !d.files.has (s.classPath k t)

theorem missing_renderTables (s : Settings) (tables : List Table) (d : Disk) :
    WritesAll.missing s.output d (s.renderTables tables).value =
      s.kinds.value.flatMap fun k =>
        (s.missing d k (tables.map (·.name))).map (s.classPath k) := by
  unfold WritesAll.missing
  rw [paths_renderTables, List.filter_flatMap]
  refine List.flatMap_congr fun k _ => ?_
  unfold missing
  rw [List.filter_map, List.filter_map, List.map_map]
  rfl

/-- The classes that are missing have different paths exactly if, kind by kind, the names of their
tables differ as capitalized words. -/
theorem nodup_missing (s : Settings) (tables : List Table) (d : Disk) :
    (WritesAll.missing s.output d (s.renderTables tables).value).Nodup ↔
      ∀ k ∈ s.kinds.value, ((s.missing d k (tables.map (·.name))).map pascal).Nodup := by
  rw [missing_renderTables]
  refine nodup_flatMap_tagged s.nodup_kinds ?_ _
  intro k t l u
  exact pathOf_fullName_inj s.output

/-- Runs that differ in whether they write check and load the same. -/
theorem endOn_generate_withDryRun (s : Settings) (dry : Bool) (d : Disk) :
    ((s.withDryRun dry).generate : Run (StateM Disk) Report).endOn d =
      match (s.validate : Run (StateM Disk) Unit).endOn d with
      | .error e => .error e
      | .ok () =>
        match (s.loadTables : Run (StateM Disk) (List Table)).endOn d with
        | .error e => .error e
        | .ok tables => .ok ⟨tables.map (·.name),
            ((s.output.withDryRun dry).writeAllOn (s.renderTables tables).value d).1⟩ := by
  have hvalidate : ((s.withDryRun dry).validate : Run (StateM Disk) Unit) = s.validate := rfl
  have hload : ((s.withDryRun dry).loadTables : Run (StateM Disk) (List Table)) = s.loadTables :=
    rfl
  have hrun := congrArg Prod.fst ((s.withDryRun dry).runOn_generate d)
  rw [hvalidate, hload, Run.runOn_eq] at hrun
  refine hrun.trans ?_
  cases (s.validate : Run (StateM Disk) Unit).endOn d with
  | error e => rfl
  | ok =>
    cases (s.loadTables : Run (StateM Disk) (List Table)).endOn d with
    | error e => rfl
    | ok tables => rfl

theorem exists_report {s : Settings} {d : Disk} {tables : List Table}
    (hvalid : (s.validate : Run (StateM Disk) Unit).endOn d = .ok ())
    (hload : (s.loadTables : Run (StateM Disk) (List Table)).endOn d = .ok tables) (dry : Bool) :
    ∃ r, ((s.withDryRun dry).generate : Run (StateM Disk) Report).endOn d = .ok r ∧
      r.tables = tables.map (·.name) ∧
      r.entries = ((s.output.withDryRun dry).writeAllOn (s.renderTables tables).value d).1 := by
  refine ⟨⟨_, _⟩, ?_, rfl, rfl⟩
  rw [endOn_generate_withDryRun, hvalid, hload]

/-- On a disk that takes all writes, a dry run and a run that writes end with the same error, or
the dry run foretells what becomes of every class exactly if writing is forced or, of the classes
that are missing, no two of a kind have tables of one name in capitalized words. -/
theorem dryRun_foretells_iff (s : Settings) {d : Disk} (hfaults : d.faults = []) :
    let looking : Run (StateM Disk) Report := (s.withDryRun true).generate
    let writing : Run (StateM Disk) Report := (s.withDryRun false).generate
    (∃ e, looking.endOn d = .error e ∧ writing.endOn d = .error e) ∨
      ∃ looked written, looking.endOn d = .ok looked ∧ writing.endOn d = .ok written ∧
        looked.tables = written.tables ∧
        (List.Forall₂ Foretells looked.entries written.entries ↔
          s.output.force = true ∨
            ∀ k ∈ s.kinds.value, ((s.missing d k written.tables).map pascal).Nodup) := by
  intro looking writing
  have hlooking : looking.endOn d = _ := s.endOn_generate_withDryRun true d
  have hwriting : writing.endOn d = _ := s.endOn_generate_withDryRun false d
  rw [hlooking, hwriting]
  cases (s.validate : Run (StateM Disk) Unit).endOn d with
  | error e => exact .inl ⟨e, rfl, rfl⟩
  | ok =>
    cases (s.loadTables : Run (StateM Disk) (List Table)).endOn d with
    | error e => exact .inl ⟨e, rfl, rfl⟩
    | ok tables =>
      refine .inr ⟨_, _, rfl, rfl, rfl, ?_⟩
      rw [s.output.foretells_writeAllOn_iff _ hfaults, s.nodup_missing tables d]

/-- A disk that holds a schema with two tables of one column each. -/
def tablesDisk (table other : String) : Disk :=
  let record := ":\x7b\"columns\":\x7b\"id\":\x7b\"DATA_TYPE\":\"int\"\x7d\x7d\x7d"
  { files :=
      [("schema.json",
        ("\x7b\"" ++ table ++ "\"" ++ record ++ ",\"" ++ other ++ "\"" ++ record ++ "\x7d").toUTF8)] }

/-- Tables of different names. -/
theorem dryRun_foretells_users :
    let s := shopSettings false
    let d := tablesDisk "users" "user_orders"
    d.faults = [] ∧
      ∃ looked written,
        ((s.withDryRun true).generate : Run (StateM Disk) Report).endOn d = .ok looked ∧
        ((s.withDryRun false).generate : Run (StateM Disk) Report).endOn d = .ok written ∧
        written.tables = ["users", "user_orders"] ∧
        List.Forall₂ Foretells looked.entries written.entries := by
  intro s d
  have hvalid : (s.validate : Run (StateM Disk) Unit).endOn d = .ok () := by decide +kernel
  have hload : (s.loadTables : Run (StateM Disk) (List Table)).endOn d
      = .ok (numberedTables ["users", "user_orders"]) := by
    decide +kernel
  have hmissing : ∀ k ∈ s.kinds.value,
      ((s.missing d k ["users", "user_orders"]).map pascal).Nodup := by
    decide +kernel
  obtain ⟨r, hr, hnames, -⟩ := exists_report hvalid hload false
  refine ⟨rfl, ?_⟩
  obtain ⟨e, -, herror⟩ | ⟨looked, written, hlooked, hwritten, -, hiff⟩ :=
    s.dryRun_foretells_iff (d := d) rfl
  · rw [hr] at herror
    cases herror
  · obtain rfl : r = written := Except.ok.inj (hr.symm.trans hwritten)
    exact ⟨looked, r, hlooked, hr, hnames, hiff.2 (.inr (hnames ▸ hmissing))⟩

/-- Of two tables with one class name, a dry run sees both classes as ready, and a run that writes
creates the first and keeps it from the second. -/
theorem twinTables_unforeseen :
    let s := shopSettings false
    let d := tablesDisk "user_accounts" "userAccounts"
    (s.validate : Run (StateM Disk) Unit).endOn d = .ok () ∧ d.faults = [] ∧
      ∃ looked written,
        ((s.withDryRun true).generate : Run (StateM Disk) Report).endOn d = .ok looked ∧
        ((s.withDryRun false).generate : Run (StateM Disk) Report).endOn d = .ok written ∧
        looked.entries.map (·.outcome) = [.ready, .ready] ∧
        written.entries.map (·.outcome) = [.created, .skipped] ∧
        ¬ List.Forall₂ Foretells looked.entries written.entries := by
  intro s d
  have hvalid : (s.validate : Run (StateM Disk) Unit).endOn d = .ok () := by decide +kernel
  have hload : (s.loadTables : Run (StateM Disk) (List Table)).endOn d = .ok twinTables := by
    decide +kernel
  have hready : ((s.output.withDryRun true).writeAllOn (s.renderTables twinTables).value d).1.map
      (·.outcome) = [.ready, .ready] := by
    decide +kernel
  have hcreated : ((s.output.withDryRun false).writeAllOn (s.renderTables twinTables).value d).1.map
      (·.outcome) = [.created, .skipped] := by
    decide +kernel
  obtain ⟨looked, hlooked, -, hentries⟩ := exists_report hvalid hload true
  obtain ⟨written, hwritten, -, hentries'⟩ := exists_report hvalid hload false
  rw [← hentries] at hready
  rw [← hentries'] at hcreated
  refine ⟨hvalid, rfl, looked, written, hlooked, hwritten, hready, hcreated, fun hforetold => ?_⟩
  have houtcomes : List.Forall₂ (fun a b => a = .ready ↔ b.isWritten = true)
      (looked.entries.map (·.outcome)) (written.entries.map (·.outcome)) := by
    rw [List.forall₂_map_left_iff, List.forall₂_map_right_iff]
    exact hforetold.imp fun _ _ h => h.ready
  rw [hready, hcreated] at houtcomes
  simp [Outcome.isWritten] at houtcomes

end Settings

end TableClasses
