import Mathlib.Data.List.Induction
import TableClasses.Files.Tree
import TableClasses.Proofs.ClassFiles

/-!
# Reports

A run on any file system on which looking changes nothing, however writing goes there. `Looks` is
work that leaves the files as they are; it is closed under putting such work together, and all that
a run does before it writes is of this kind. So a run either ends with an error and has touched
nothing, or it writes all classes and gives a report. `Recorded` has a case for everything that the
record of a class may say, and a report `Accounts` for every class that was asked for.
-/

namespace TableClasses

open TableClasses.Files TableClasses.Schema TableClasses.Classes TableClasses.Output

/-! ## Work that only looks -/

namespace Run

variable {σ α β : Type}

/-- The state that a run leaves behind. -/
def stateOn (x : Run (StateM σ) α) (s : σ) : σ := (x.run.runOn s).2

theorem runOn_eq (x : Run (StateM σ) α) (s : σ) : x.run.runOn s = (x.endOn s, x.stateOn s) := rfl

/-- Work that leaves the state as it is. -/
def Looks (x : Run (StateM σ) α) : Prop := ∀ s, x.stateOn s = s

theorem looks_pure (a : α) : (pure a : Run (StateM σ) α).Looks := fun _ => rfl

theorem looks_throw (e : Error) : (throw e : Run (StateM σ) α).Looks := fun _ => rfl

theorem looks_report (w : Warned α) : (report w : Run (StateM σ) α).Looks := fun _ => rfl

theorem looks_act {x : StateM σ α} (h : ∀ s, (x.run s).2 = s) : (act x : Run (StateM σ) α).Looks :=
  fun s => h s

theorem looks_orFail {ε : Type} (error : ε → Error) (r : Except ε α) :
    (orFail error r : Run (StateM σ) α).Looks := by
  cases r with
  | ok a => exact looks_pure a
  | error fault => exact looks_throw (error fault)

/-- What follows a run starts where the run has ended, unless it has ended with an error. -/
theorem runOn_bind (x : Run (StateM σ) α) (f : α → Run (StateM σ) β) (s : σ) :
    (x >>= f).run.runOn s =
      match x.endOn s with
      | .ok a => (f a).run.runOn (x.stateOn s)
      | .error e => (.error e, x.stateOn s) := by
  show Reporting.runOn (x.run >>= ExceptT.bindCont f) s = _
  rw [Reporting.runOn_bind, runOn_eq]
  cases x.endOn s <;> rfl

theorem Looks.bind {x : Run (StateM σ) α} (hx : x.Looks) {f : α → Run (StateM σ) β}
    (hf : ∀ a, (f a).Looks) : (x >>= f).Looks := by
  intro s
  unfold stateOn
  rw [runOn_bind, hx s]
  cases x.endOn s with
  | ok a => exact hf a s
  | error e => rfl

theorem Looks.ite {c : Prop} [Decidable c] {x y : Run (StateM σ) α} (hx : x.Looks)
    (hy : y.Looks) : (if c then x else y).Looks := by
  split
  · exact hx
  · exact hy

end Run

instance : LawfulAccess Tree where
  present_snd _ _ := rfl
  read_snd _ _ := rfl

section
variable {σ : Type} [Access (StateM σ)] [LawfulAccess σ]

theorem looks_present (path : String) :
    (Run.act (Access.present path) : Run (StateM σ) Bool).Looks :=
  Run.looks_act (LawfulAccess.present_snd path)

theorem looks_loadDocument (path : String) : (loadDocument path : Run (StateM σ) Json).Looks := by
  unfold loadDocument
  refine (Run.looks_orFail _ _).bind fun format => ?_
  refine (Run.looks_act (run_readText_snd path)).bind fun text => ?_
  refine (Run.looks_orFail _ _).bind fun text => ?_
  cases format.parse? text with
  | some doc => exact Run.looks_pure doc
  | none => exact Run.looks_throw _

theorem looks_loadOverlay (path : String) :
    (loadOverlay path : Run (StateM σ) (Option Overlay)).Looks := by
  unfold loadOverlay
  refine (looks_present path).bind fun present => ?_
  refine Run.Looks.ite ?_ ?_
  · refine (looks_loadDocument path).bind fun doc => ?_
    refine (Run.looks_orFail _ _).bind fun overlay => ?_
    exact (Run.looks_report overlay).bind fun overlay => Run.looks_pure _
  · exact (Run.looks_report _).bind fun _ => Run.looks_pure none

namespace Settings

variable (s : Settings)

theorem looks_validate : (s.validate : Run (StateM σ) Unit).Looks := by
  unfold validate
  refine Run.Looks.ite (Run.looks_throw _) ?_
  refine (looks_present _).bind fun present => ?_
  refine Run.Looks.ite (Run.looks_throw _) ?_
  refine Run.Looks.ite (Run.looks_throw _) ?_
  refine (Run.looks_report _).bind fun kinds => ?_
  exact Run.Looks.ite (Run.looks_throw _) (Run.looks_pure ())

theorem looks_loadTables : (s.loadTables : Run (StateM σ) (List Table)).Looks := by
  unfold loadTables
  refine (looks_loadDocument _).bind fun doc => ?_
  split
  on_goal 1 => refine (looks_loadOverlay _).bind fun overlay => ?_
  on_goal 2 => refine (Run.looks_pure none).bind fun overlay => ?_
  all_goals
    refine (Run.looks_orFail _ _).bind fun w => ?_
    exact (Run.looks_report w).bind fun tables => Run.looks_orFail _ _

/-- A run ends with the first error of checking its settings and loading its tables, or else writes
all classes and gives a report. -/
theorem runOn_generate (fs : σ) :
    (s.generate : Run (StateM σ) Report).run.runOn fs =
      match (s.validate : Run (StateM σ) Unit).endOn fs with
      | .error e => (.error e, fs)
      | .ok () =>
        match (s.loadTables : Run (StateM σ) (List Table)).endOn fs with
        | .error e => (.error e, fs)
        | .ok tables =>
          let w := (s.output.writeAll (s.renderTables tables).value : Reporting (StateM σ) _).runOn fs
          (.ok ⟨tables.map (·.name), w.1⟩, w.2) := by
  unfold generate
  rw [Run.runOn_bind, s.looks_validate fs]
  cases (s.validate : Run (StateM σ) Unit).endOn fs with
  | error e => rfl
  | ok =>
    simp only
    rw [Run.runOn_bind, s.looks_loadTables fs]
    cases (s.loadTables : Run (StateM σ) (List Table)).endOn fs with
    | error e => rfl
    | ok tables => rfl

end Settings
end

/-! ## Records -/

namespace Output

/-- What the record of a class may say. -/
inductive Recorded (o : Options) (path : String) : Entry → Prop
  | kept (printed : String) :
    Recorded o path
      ⟨path, .skipped, if o.dryRun then none else some (.present path), printed⟩
  | ready (hdry : o.dryRun = true) (printed : String) : Recorded o path ⟨path, .ready, none, printed⟩
  | created (hdry : o.dryRun = false) (printed : String) :
    Recorded o path ⟨path, .created, none, printed⟩
  | overwritten (hdry : o.dryRun = false) (printed : String) :
    Recorded o path ⟨path, .overwritten, none, printed⟩
  | failed (hdry : o.dryRun = false) (cause : Fault) (printed : String) :
    Recorded o path ⟨path, .failed, some (.failed path cause), printed⟩

theorem recorded_write {σ : Type} [Access (StateM σ)] (o : Options) (className content : String)
    (s : σ) :
    Recorded o (o.pathOf className)
      ((o.write className content : Reporting (StateM σ) Entry).runOn s).1 := by
  simp only [Options.write_eq, Reporting.runOn_bind, Reporting.runOn_lift, Options.runOn_settle,
    Reporting.runOn_pure]
  generalize (Access.present (o.pathOf className) : StateM σ Bool).run s = p
  obtain ⟨present, s₁⟩ := p
  simp only
  generalize (o.echo (o.pathOf className) content : Reporting (StateM σ) String).runOn s₁ = r
  obtain ⟨printed, s₂⟩ := r
  simp only
  split
  · exact .kept printed
  · by_cases hdry : o.dryRun = true
    · rw [if_pos hdry]
      exact .ready hdry printed
    · rw [if_neg hdry]
      rw [Bool.not_eq_true] at hdry
      generalize (Access.write (o.pathOf className) content : StateM σ (Except Fault Unit)).run s₂
        = w
      obtain ⟨cause | _, s₃⟩ := w
      · exact .failed hdry cause printed
      · cases present with
        | false => exact .created hdry printed
        | true => exact .overwritten hdry printed

theorem recorded_writeAll {σ : Type} [Access (StateM σ)] (o : Options) (files : List Generated)
    (s : σ) :
    List.Forall₂ (fun f e => Recorded o (o.pathOf f.className) e) files
      ((o.writeAll files : Reporting (StateM σ) (List Entry)).runOn s).1 := by
  induction files generalizing s with
  | nil => exact .nil
  | cons f files ih =>
    rw [Options.runOn_writeAll_cons]
    exact .cons (recorded_write o f.className f.content s) (ih _)

/-- Whether a class was kept from being written. -/
def Outcome.isRefused : Outcome → Bool
  | .skipped => true
  | .failed => true
  | _ => false

/-- Why a class was kept from being written, said in a sentence that names its path. -/
structure Explains (fault : WriteFault) (e : Entry) : Prop where
  cause : e.outcome = .skipped ∧ fault = .present e.path ∨
    e.outcome = .failed ∧ ∃ cause, fault = .failed e.path cause
  message : ∃ reason, fault.message = "File " ++ e.path ++ reason

theorem message_eq (fault : WriteFault) : ∃ reason, fault.message = "File " ++ fault.path ++ reason := by
  cases fault with
  | present path => exact ⟨_, String.append_assoc⟩
  | failed path cause => exact ⟨_, String.append_assoc⟩

section
variable {o : Options} {files : List Generated} {entries : List Entry}
  (h : List.Forall₂ (fun f e => Recorded o (o.pathOf f.className) e) files entries)

include h

theorem map_path_of_recorded : entries.map (·.path) = WritesAll.paths o files := by
  induction h with
  | nil => rfl
  | cons hfirst _ ih =>
    rw [List.map_cons, ih]
    cases hfirst <;> rfl

/-- In a run that writes, the faults are those of the classes that were refused, in their order. -/
theorem explains_of_recorded (hdry : o.dryRun = false) :
    List.Forall₂ Explains (entries.filterMap (·.fault)) (entries.filter (·.outcome.isRefused)) := by
  induction h with
  | nil => exact .nil
  | cons hfirst _ ih =>
    cases hfirst with
    | kept printed =>
      rw [hdry]
      exact .cons ⟨.inl ⟨rfl, rfl⟩, message_eq _⟩ ih
    | ready hdry' => simp [hdry] at hdry'
    | created | overwritten => exact ih
    | failed _ cause => exact .cons ⟨.inr ⟨rfl, cause, rfl⟩, message_eq _⟩ ih

/-- In a run that writes, every class is written or has a fault. -/
theorem count_of_recorded (hdry : o.dryRun = false) :
    entries.countP (·.outcome.isWritten) + (entries.filterMap (·.fault)).length
      = entries.length := by
  induction h with
  | nil => rfl
  | cons hfirst _ ih =>
    rw [List.length_cons, ← ih]
    cases hfirst with
    | kept printed => simp [hdry, Outcome.isWritten, Nat.add_assoc]
    | ready hdry' => simp [hdry] at hdry'
    | created | overwritten => simp [Outcome.isWritten]; omega
    | failed => simp [Outcome.isWritten, Nat.add_assoc]

theorem nothing_of_dryRun (hdry : o.dryRun = true) :
    entries.countP (·.outcome.isWritten) = 0 ∧ entries.filterMap (·.fault) = [] := by
  induction h with
  | nil => exact ⟨rfl, rfl⟩
  | cons hfirst _ ih =>
    cases hfirst with
    | kept => simpa [hdry, Outcome.isWritten] using ih
    | ready => simpa [Outcome.isWritten] using ih
    | created hdry' | overwritten hdry' | failed hdry' => simp [hdry] at hdry'

end

end Output

/-! ## Reports of runs -/

namespace Classes.Kind

theorem request_concat (names : List String) (n : String) :
    (request (names ++ [n])).1 =
      match ofName? n with
      | some k => if k ∈ (request names).1 then (request names).1 else (request names).1 ++ [k]
      | none => (request names).1 := by
  unfold request
  rw [List.foldl_append, List.foldl_cons, List.foldl_nil]
  cases ofName? n <;> rfl

/-- Kinds are requested in the order in which they are first named. -/
theorem request_fst (names : List String) :
    (request names).1 = (names.filterMap ofName?).eraseDups := by
  induction names using List.reverseRecOn with
  | nil => rfl
  | append_singleton names n ih =>
    rw [request_concat, ih, List.filterMap_append, List.eraseDups_append]
    generalize names.filterMap ofName? = kinds
    cases hn : ofName? n with
    | none => simp [hn, List.removeAll]
    | some k =>
      by_cases hk : k ∈ kinds <;> simp [hn, hk, List.removeAll, List.eraseDups_cons]

end Classes.Kind

namespace Settings

/-- The path of a class of a table. -/
def classPath (s : Settings) (k : Kind) (table : String) : String :=
  s.output.pathOf ((Names.ofTable s.rendering.baseNamespace table).fullName k)

/-- What a report says of a run over these tables: what became of every class, kind by kind in the
order of the first mention, and a fault for each class that a run which writes has not written. -/
structure Accounts (s : Settings) (tables : List Table) (r : Report) : Prop where
  names : r.tables = tables.map (·.name)
  paths : r.entries.map (·.path) =
    (s.artifacts.filterMap Kind.ofName?).eraseDups.flatMap fun k => r.tables.map (s.classPath k)
  faults : s.output.dryRun = false →
    List.Forall₂ Explains r.faults (r.entries.filter (·.outcome.isRefused))
  count : s.output.dryRun = false → r.written + r.faults.length = r.entries.length
  dryRun : s.output.dryRun = true → r.written = 0 ∧ r.faults = []

theorem accounts_writeAll {σ : Type} [Access (StateM σ)] (s : Settings) (tables : List Table)
    (fs : σ) :
    s.Accounts tables ⟨tables.map (·.name),
      ((s.output.writeAll (s.renderTables tables).value : Reporting (StateM σ) _).runOn fs).1⟩ := by
  have hrecorded := recorded_writeAll s.output (s.renderTables tables).value fs
  refine ⟨rfl, ?_, explains_of_recorded hrecorded, count_of_recorded hrecorded,
    nothing_of_dryRun hrecorded⟩
  have hkinds : s.kinds.value = (s.artifacts.filterMap Kind.ofName?).eraseDups :=
    Kind.request_fst s.artifacts
  rw [map_path_of_recorded hrecorded, paths_renderTables, hkinds]
  simp only [List.map_map]
  rfl

/-- Whatever the files are and whatever becomes of writing: a run that ends with an error has
changed nothing, a run whose settings can be used and whose tables can be loaded gives a report, and
every report accounts for all classes. -/
theorem generate_accounts {σ : Type} [Access (StateM σ)] [LawfulAccess σ] (s : Settings) (fs : σ) :
    let run : Run (StateM σ) Report := s.generate
    let loading : Run (StateM σ) (List Table) := s.loadTables
    (∀ e, run.endOn fs = .error e → run.stateOn fs = fs) ∧
      (∀ tables, (s.validate : Run (StateM σ) Unit).endOn fs = .ok () →
        loading.endOn fs = .ok tables → ∃ r, run.endOn fs = .ok r) ∧
      ∀ r, run.endOn fs = .ok r → ∃ tables, loading.endOn fs = .ok tables ∧ s.Accounts tables r := by
  intro run loading
  have hrun := s.runOn_generate fs
  rw [Run.runOn_eq] at hrun
  cases hvalid : (s.validate : Run (StateM σ) Unit).endOn fs with
  | error e =>
    rw [hvalid] at hrun
    obtain ⟨hend, hstate⟩ : run.endOn fs = .error e ∧ run.stateOn fs = fs := Prod.mk.inj hrun
    simp [hend, hstate]
  | ok =>
    rw [hvalid] at hrun
    cases hload : loading.endOn fs with
    | error e =>
      rw [hload] at hrun
      obtain ⟨hend, hstate⟩ : run.endOn fs = .error e ∧ run.stateOn fs = fs := Prod.mk.inj hrun
      simp [hend, hstate]
    | ok tables =>
      rw [hload] at hrun
      obtain ⟨hend, -⟩ : run.endOn fs = .ok ⟨tables.map (·.name), _⟩ ∧ _ := Prod.mk.inj hrun
      have haccounts := s.accounts_writeAll tables fs
      rw [hend]
      refine ⟨nofun, fun _ _ _ => ⟨_, rfl⟩, fun r hr => ⟨tables, rfl, ?_⟩⟩
      exact Except.ok.inj hr ▸ haccounts

/-- A schema, a class that is there already, and a file in the way of a directory. -/
def blockedTree : Tree :=
  { nodes :=
      [(["schema.json"], .file
          "\x7b\"users\":\x7b\"columns\":\x7b\"id\":\x7b\"DATA_TYPE\":\"int\"\x7d\x7d\x7d\x7d".toUTF8),
        (["Users"], .directory), (["Users", "Data"], .directory),
        (["Users", "Data", "UsersData.php"], .file .empty),
        (["Users", "Storage"], .file .empty)] }

def usersSettings : Settings :=
  { schemaFile := "schema.json"
    artifacts := [" Data", "llstorage", "view", "data", "collection"]
    rendering := { baseNamespace := "App" }
    output := { directory := ".", ignoredNamespace := "App" } }

/-- One class is there and another one lies behind a file; the run reports on all three. -/
theorem generate_usersSettings :
    ∃ r tables, (usersSettings.generate : Run (StateM Tree) Report).endOn blockedTree = .ok r ∧
      r.tables = ["users"] ∧ r.written + r.faults.length = 3 ∧ usersSettings.Accounts tables r := by
  have hvalid : (usersSettings.validate : Run (StateM Tree) Unit).endOn blockedTree = .ok () := by
    decide +kernel
  have hload : (usersSettings.loadTables : Run (StateM Tree) (List Table)).endOn blockedTree
      = .ok [⟨"users", [{ name := "id", scalar := .int }], none⟩] := by
    decide +kernel
  have hkinds : (usersSettings.artifacts.filterMap Kind.ofName?).eraseDups
      = [.data, .storage, .collection] := by
    decide +kernel
  obtain ⟨-, hreport, haccounts⟩ := generate_accounts usersSettings blockedTree
  obtain ⟨r, hr⟩ := hreport _ hvalid hload
  obtain ⟨tables, htables, hall⟩ := haccounts r hr
  obtain rfl := Except.ok.inj (hload.symm.trans htables)
  have hcount := hall.count rfl
  have hlength := congrArg List.length hall.paths
  rw [hkinds, hall.names, List.length_map] at hlength
  exact ⟨r, _, hr, hall.names, hcount.trans hlength, hall⟩

end Settings

end TableClasses
