import Mathlib.Data.List.Forall2
import Mathlib.Data.List.Nodup
import TableClasses.Generate

/-!
# Writing on a disk

A `Disk` says what each path holds and what becomes of the coming writes: a write sets its path, or
it fails and changes no path. `Writes` has a case for everything that may become of one class and
`WritesAll` puts classes one after the other; a class changes no path but its own, and a dry run
changes none.
-/

namespace TableClasses

open TableClasses.Files TableClasses.Classes

/-! ## Work on a state -/

namespace Reporting

variable {m : Type → Type} [Monad m] {α β : Type}

theorem run_bind (x : Reporting m α) (f : α → Reporting m β) :
    (x >>= f).run = x.run >>= fun a => (f a.value).run >>= fun b =>
      pure ⟨b.value, a.warnings ++ b.warnings⟩ := rfl

theorem run_pure (a : α) : (pure a : Reporting m α).run = pure ⟨a, []⟩ := rfl

instance [LawfulMonad m] : LawfulMonad (Reporting m) :=
  .mk' (Reporting m)
    (fun x => by
      show (x >>= fun a => pure (id a)).run = x.run
      simp [run_bind, run_pure])
    (fun a f => by
      show (pure a >>= f).run = (f a).run
      simp [run_bind, run_pure])
    (fun x f g => by
      show ((x >>= f) >>= g).run = (x >>= fun a => f a >>= g).run
      simp [run_bind, List.append_assoc])

section
variable {σ : Type}

/-- The value of work on a state with the state afterwards, without the warnings. -/
def runOn (x : Reporting (StateM σ) α) (s : σ) : α × σ :=
  let (w, s') := StateT.run x.run s
  (w.value, s')

theorem runOn_bind (x : Reporting (StateM σ) α) (f : α → Reporting (StateM σ) β) (s : σ) :
    (x >>= f).runOn s = (f (x.runOn s).1).runOn (x.runOn s).2 := rfl

theorem runOn_pure (a : α) (s : σ) : (pure a : Reporting (StateM σ) α).runOn s = (a, s) := rfl

theorem runOn_lift (x : StateM σ α) (s : σ) :
    (liftM x : Reporting (StateM σ) α).runOn s = x.run s := rfl

theorem runOn_warned (w : Warned α) (s : σ) :
    (liftM w : Reporting (StateM σ) α).runOn s = (w.value, s) := rfl

theorem runOn_ite (c : Prop) [Decidable c] (x y : Reporting (StateM σ) α) (s : σ) :
    (if c then x else y).runOn s = if c then x.runOn s else y.runOn s := by
  split <;> rfl

end

end Reporting

namespace Run

variable {σ α β : Type}

/-- What a run on a state ends with. -/
def endOn (x : Run (StateM σ) α) (s : σ) : Except Error α := (x.run.runOn s).1

theorem endOn_pure (a : α) (s : σ) : (pure a : Run (StateM σ) α).endOn s = .ok a := rfl

theorem endOn_throw (e : Error) (s : σ) : (throw e : Run (StateM σ) α).endOn s = .error e := rfl

theorem endOn_throw_bind (e : Error) (f : α → Run (StateM σ) β) (s : σ) :
    (throw e >>= f).endOn s = .error e := rfl

theorem endOn_act_bind (x : StateM σ α) (f : α → Run (StateM σ) β) (s : σ) :
    (act x >>= f).endOn s = (f (x.run s).1).endOn (x.run s).2 := rfl

theorem endOn_report_bind (w : Warned α) (f : α → Run (StateM σ) β) (s : σ) :
    (report w >>= f).endOn s = (f w.value).endOn s := rfl

theorem endOn_ite (c : Prop) [Decidable c] (x y : Run (StateM σ) α) (s : σ) :
    (if c then x else y).endOn s = if c then x.endOn s else y.endOn s := by
  split <;> rfl

end Run

/-! ## Looking at files -/

namespace Files

/-- Looking at files changes nothing. -/
class LawfulAccess (σ : Type) [Access (StateM σ)] : Prop where
  present_snd (path : String) (s : σ) : ((Access.present path : StateM σ Bool).run s).2 = s
  read_snd (path : String) (s : σ) :
    ((Access.read path : StateM σ (Except Fault ByteArray)).run s).2 = s

theorem run_readText_snd {σ : Type} [Access (StateM σ)] [LawfulAccess σ] (path : String) (s : σ) :
    ((readText path : StateM σ (Except Fault String)).run s).2 = s := by
  unfold readText
  simp only [StateT.run_bind]
  have hread := LawfulAccess.read_snd path s
  generalize (Access.read path : StateM σ (Except Fault ByteArray)).run s = r at hread
  obtain ⟨fault | bytes, s'⟩ := r
  · exact hread
  · simp only [bind]
    split <;> exact hread

end Files

/-! ## Disks -/

/-- What each path holds, and which of the coming writes fail; those not foreseen do not. -/
structure Disk where
  files : Entries ByteArray := []
  faults : List (Option Fault) := []

namespace Disk

def write (d : Disk) (path text : String) : Except Fault Unit × Disk :=
  match d.faults.head?.join with
  | some fault => (.error fault, ⟨d.files, d.faults.tail⟩)
  | none => (.ok (), ⟨d.files.put path text.toUTF8, d.faults.tail⟩)

def read (d : Disk) (path : String) : Except Fault ByteArray :=
  match d.files.get? path with
  | some bytes => .ok bytes
  | none => .error .notFound

instance : Access (StateM Disk) where
  present path := fun d => (d.files.has path, d)
  isFile path := fun d => (d.files.has path, d)
  read path := fun d => (d.read path, d)
  write path text := fun d => d.write path text

instance : LawfulAccess Disk where
  present_snd _ _ := rfl
  read_snd _ _ := rfl

section
variable (d : Disk) (path text : String)

@[simp] theorem run_present :
    (Access.present path : StateM Disk Bool).run d = (d.files.has path, d) := rfl

@[simp] theorem run_read :
    (Access.read path : StateM Disk (Except Fault ByteArray)).run d = (d.read path, d) := rfl

@[simp] theorem run_write :
    (Access.write path text : StateM Disk (Except Fault Unit)).run d = d.write path text := rfl

end

section
variable {d d' : Disk} {path text : String}

theorem write_ok (h : d.write path text = (.ok (), d')) :
    d' = ⟨d.files.put path text.toUTF8, d.faults.tail⟩ := by
  unfold write at h
  split at h
  · cases h
  · exact (congrArg Prod.snd h).symm

theorem write_error {fault : Fault} (h : d.write path text = (.error fault, d')) :
    d' = ⟨d.files, d.faults.tail⟩ ∧ some fault ∈ d.faults := by
  unfold write at h
  split at h
  · next cause hcause =>
    obtain ⟨rfl, rfl⟩ : cause = fault ∧ _ = d' := by simpa using h
    cases hfaults : d.faults with
    | nil => simp [hfaults] at hcause
    | cons next coming => simp_all
  · cases h

/-- Whether a write fails and what its path holds then depend on the faults and on that path. -/
theorem write_transfer {result : Except Fault Unit} (h : d.write path text = (result, d'))
    {d₁ : Disk} (hfiles : d₁.files.get? path = d.files.get? path)
    (hfaults : d₁.faults = d.faults) :
    ∃ d₁', d₁.write path text = (result, d₁') ∧ d₁'.files.get? path = d'.files.get? path := by
  unfold write at h ⊢
  rw [hfaults]
  cases hnext : d.faults.head?.join with
  | some fault =>
    rw [hnext] at h
    obtain ⟨rfl, rfl⟩ := Prod.mk.inj h
    exact ⟨_, rfl, hfiles⟩
  | none =>
    rw [hnext] at h
    obtain ⟨rfl, rfl⟩ := Prod.mk.inj h
    exact ⟨_, rfl, by rw [Entries.get?_put_self, Entries.get?_put_self]⟩

end

end Disk

namespace Output

/-! ## One class -/

/-- What may become of a class on a disk. -/
inductive Writes (o : Options) (className content : String) (d : Disk) : Entry → Disk → Prop
  | kept (hpresent : d.files.has (o.pathOf className) = true) (hforce : o.force = false)
      (printed : String) :
    Writes o className content d
      ⟨o.pathOf className, .skipped,
        if o.dryRun then none else some (.present (o.pathOf className)), printed⟩ d
  | ready (hfree : d.files.has (o.pathOf className) = false ∨ o.force = true)
      (hdry : o.dryRun = true) (printed : String) :
    Writes o className content d ⟨o.pathOf className, .ready, none, printed⟩ d
  | created (habsent : d.files.has (o.pathOf className) = false) (hdry : o.dryRun = false)
      {d' : Disk} (hwrite : d.write (o.pathOf className) content = (.ok (), d'))
      (printed : String) :
    Writes o className content d ⟨o.pathOf className, .created, none, printed⟩ d'
  | overwritten (hpresent : d.files.has (o.pathOf className) = true) (hforce : o.force = true)
      (hdry : o.dryRun = false)
      {d' : Disk} (hwrite : d.write (o.pathOf className) content = (.ok (), d'))
      (printed : String) :
    Writes o className content d ⟨o.pathOf className, .overwritten, none, printed⟩ d'
  | failed (hfree : d.files.has (o.pathOf className) = false ∨ o.force = true)
      (hdry : o.dryRun = false) {fault : Fault}
      {d' : Disk} (hwrite : d.write (o.pathOf className) content = (.error fault, d'))
      (printed : String) :
    Writes o className content d
      ⟨o.pathOf className, .failed, some (.failed (o.pathOf className) fault), printed⟩ d'

namespace Options

section
variable {σ : Type} [Access (StateM σ)] [LawfulAccess σ]

theorem run_preview_snd (path content : String) (s : σ) :
    ((preview path content : StateM σ String).run s).2 = s := by
  unfold preview
  simp only [StateT.run_bind]
  have hread := run_readText_snd path s
  generalize (readText path : StateM σ (Except Fault String)).run s = r at hread
  obtain ⟨_ | _, s'⟩ := r <;> exact hread

end

theorem value_keep (o : Options) (path : String) :
    (o.keep path).value = (.skipped, if o.dryRun then none else some (.present path)) := by
  unfold keep
  split <;> rfl

section
variable {m : Type → Type} [Monad m] [Access m]

/-- What a write prints. -/
def echo (o : Options) (path content : String) : Reporting m String :=
  if o.print then (preview path content : m String) else pure ""

/-- What a write does besides printing. -/
def settle (o : Options) (path content : String) (present : Bool) :
    Reporting m (Outcome × Option WriteFault) :=
  if present && !o.force then o.keep path
  else if o.dryRun then pure (.ready, none)
  else do
    let result ← (Access.write path content : m (Except Fault Unit))
    attempted path present result

theorem write_eq [LawfulMonad m] (o : Options) (className content : String) :
    (o.write className content : Reporting m Entry) = (do
      let path := o.pathOf className
      let present ← (Access.present path : m Bool)
      let printed ← o.echo path content
      let r ← o.settle path content present
      return ⟨path, r.1, r.2, printed⟩) := by
  unfold write settle echo
  refine bind_congr fun present => ?_
  by_cases hprint : o.print = true <;>
    by_cases hkeep : (present && !o.force) = true <;>
      by_cases hdry : o.dryRun = true <;>
        simp [hprint, hkeep, hdry]

end

section
variable {σ : Type} [Access (StateM σ)]

theorem runOn_settle (o : Options) (path content : String) (present : Bool) (s : σ) :
    (o.settle path content present : Reporting (StateM σ) (Outcome × Option WriteFault)).runOn s =
      if present && !o.force then
        ((.skipped, if o.dryRun then none else some (.present path)), s)
      else if o.dryRun then ((.ready, none), s)
      else
        let written := (Access.write path content : StateM σ (Except Fault Unit)).run s
        ((attempted path present written.1).value, written.2) := by
  unfold settle
  simp only [Reporting.runOn_ite, Reporting.runOn_warned, value_keep, Reporting.runOn_pure,
    Reporting.runOn_bind, Reporting.runOn_lift]

end

theorem runOn_echo_snd {σ : Type} [Access (StateM σ)] [LawfulAccess σ] (o : Options)
    (path content : String) (s : σ) :
    ((o.echo path content : Reporting (StateM σ) String).runOn s).2 = s := by
  unfold echo
  rw [Reporting.runOn_ite]
  split
  · rw [Reporting.runOn_lift, run_preview_snd]
  · rfl

theorem write_spec (o : Options) (className content : String) (d : Disk) :
    let r := (o.write className content : Reporting (StateM Disk) Entry).runOn d
    Writes o className content d r.1 r.2 := by
  simp only [write_eq, Reporting.runOn_bind, Reporting.runOn_lift, Disk.run_present,
    runOn_echo_snd, runOn_settle, Disk.run_write, Reporting.runOn_pure]
  generalize ((o.echo (o.pathOf className) content : Reporting (StateM Disk) String).runOn d).1
    = printed
  by_cases hkeep : (d.files.has (o.pathOf className) && !o.force) = true
  · obtain ⟨hpresent, hforce⟩ : d.files.has (o.pathOf className) = true ∧ o.force = false := by
      simpa using hkeep
    rw [if_pos hkeep]
    exact .kept hpresent hforce printed
  · have hfree : d.files.has (o.pathOf className) = false ∨ o.force = true := by
      simpa [Classical.or_iff_not_imp_left] using hkeep
    rw [if_neg hkeep]
    by_cases hdry : o.dryRun = true
    · rw [if_pos hdry]
      exact .ready hfree hdry printed
    · rw [if_neg hdry]
      rw [Bool.not_eq_true] at hdry
      generalize hwrite : d.write (o.pathOf className) content = w
      obtain ⟨result, d'⟩ := w
      cases result with
      | error fault => exact .failed hfree hdry hwrite printed
      | ok =>
        cases hpresent : d.files.has (o.pathOf className) with
        | false => exact .created hpresent hdry hwrite printed
        | true =>
          have hforce : o.force = true := by simpa [hpresent] using hfree
          exact .overwritten hpresent hforce hdry hwrite printed

end Options

namespace Writes

variable {o : Options} {className content : String} {d d' : Disk} {e : Entry}

/-- Only the path of the class may change. -/
theorem frame (h : Writes o className content d e d') {path : String}
    (hpath : path ≠ o.pathOf className) :
    d'.files.get? path = d.files.get? path := by
  cases h with
  | kept | ready => rfl
  | created _ _ hwrite | overwritten _ _ _ hwrite =>
    rw [Disk.write_ok hwrite]
    exact Entries.get?_put_of_ne _ _ (Ne.symm hpath)
  | failed _ _ hwrite => rw [(Disk.write_error hwrite).1]

theorem faults_suffix (h : Writes o className content d e d') : d'.faults <:+ d.faults := by
  cases h with
  | kept | ready => exact List.suffix_rfl
  | created _ _ hwrite | overwritten _ _ _ hwrite =>
    rw [Disk.write_ok hwrite]
    exact List.tail_suffix _
  | failed _ _ hwrite =>
    rw [(Disk.write_error hwrite).1]
    exact List.tail_suffix _

/-- What becomes of a class depends on its own path and on the faults. -/
theorem transfer (h : Writes o className content d e d') {d₁ : Disk}
    (hfiles : d₁.files.get? (o.pathOf className) = d.files.get? (o.pathOf className))
    (hfaults : d₁.faults = d.faults) :
    ∃ d₁', Writes o className content d₁ e d₁' ∧
      d₁'.files.get? (o.pathOf className) = d'.files.get? (o.pathOf className) := by
  have hhas : d₁.files.has (o.pathOf className) = d.files.has (o.pathOf className) := by
    unfold Entries.has
    rw [hfiles]
  cases h with
  | kept hpresent hforce printed => exact ⟨d₁, .kept (hhas ▸ hpresent) hforce printed, hfiles⟩
  | ready hfree hdry printed => exact ⟨d₁, .ready (hhas ▸ hfree) hdry printed, hfiles⟩
  | created habsent hdry hwrite printed =>
    obtain ⟨d₁', hwrite', hheld⟩ := Disk.write_transfer hwrite hfiles hfaults
    exact ⟨d₁', .created (hhas ▸ habsent) hdry hwrite' printed, hheld⟩
  | overwritten hpresent hforce hdry hwrite printed =>
    obtain ⟨d₁', hwrite', hheld⟩ := Disk.write_transfer hwrite hfiles hfaults
    exact ⟨d₁', .overwritten (hhas ▸ hpresent) hforce hdry hwrite' printed, hheld⟩
  | failed hfree hdry hwrite printed =>
    obtain ⟨d₁', hwrite', hheld⟩ := Disk.write_transfer hwrite hfiles hfaults
    exact ⟨d₁', .failed (hhas ▸ hfree) hdry hwrite' printed, hheld⟩

theorem state_of_dryRun (h : Writes o className content d e d') (hdry : o.dryRun = true) :
    d' = d := by
  cases h with
  | kept | ready => rfl
  | created _ hnot | overwritten _ _ hnot | failed _ hnot =>
    rw [hdry] at hnot
    cases hnot

/-- A class is created where there was nothing, and is there afterwards. -/
theorem of_created (h : Writes o className content d e d') (he : e.outcome = .created) :
    d.files.has (o.pathOf className) = false ∧ d'.files.has (o.pathOf className) = true := by
  cases h with
  | kept | ready | overwritten | failed => cases he
  | created habsent _ hwrite =>
    refine ⟨habsent, ?_⟩
    rw [Disk.write_ok hwrite, Entries.has, Entries.get?_put_self]
    rfl

/-- On a disk that takes all writes the files that are there decide. -/
theorem outcome_of_no_faults (h : Writes o className content d e d') (hdry : o.dryRun = false)
    (hfaults : d.faults = []) :
    e.outcome = if d.files.has (o.pathOf className) then
      (if o.force then .overwritten else .skipped) else .created := by
  cases h with
  | kept hpresent hforce => simp [hpresent, hforce]
  | ready _ hdry' =>
    rw [hdry] at hdry'
    cases hdry'
  | created habsent => simp [habsent]
  | overwritten hpresent hforce => simp [hpresent, hforce]
  | failed _ _ hwrite =>
    have hfault := (Disk.write_error hwrite).2
    rw [hfaults] at hfault
    cases hfault

end Writes

/-! ## All classes of a run -/

/-- The writing step of a run. -/
def Options.writeAll {m : Type → Type} [Monad m] [Access m] (o : Options) (files : List Generated) :
    Reporting m (List Entry) :=
  files.mapM fun f => o.write f.className f.content

theorem Options.runOn_writeAll_cons {σ : Type} [Access (StateM σ)] (o : Options) (f : Generated)
    (files : List Generated) (s : σ) :
    (o.writeAll (f :: files) : Reporting (StateM σ) (List Entry)).runOn s =
      let first := (o.write f.className f.content : Reporting (StateM σ) Entry).runOn s
      let rest := (o.writeAll files : Reporting (StateM σ) (List Entry)).runOn first.2
      (first.1 :: rest.1, rest.2) := by
  unfold writeAll
  simp only [List.mapM_cons, Reporting.runOn_bind, Reporting.runOn_pure]

/-- The records of a run on a disk, and the disk afterwards. -/
def Options.writeAllOn (o : Options) (files : List Generated) (d : Disk) : List Entry × Disk :=
  (o.writeAll files : Reporting (StateM Disk) (List Entry)).runOn d

inductive WritesAll (o : Options) : Disk → List Generated → List Entry → Disk → Prop
  | nil (d : Disk) : WritesAll o d [] [] d
  | cons {d d₁ d' : Disk} {f : Generated} {files : List Generated} {e : Entry}
      {entries : List Entry} (h : Writes o f.className f.content d e d₁)
      (hrest : WritesAll o d₁ files entries d') :
    WritesAll o d (f :: files) (e :: entries) d'

theorem Options.writeAll_spec (o : Options) (files : List Generated) (d : Disk) :
    WritesAll o d files (o.writeAllOn files d).1 (o.writeAllOn files d).2 := by
  induction files generalizing d with
  | nil => exact .nil d
  | cons f files ih =>
    unfold writeAllOn at ih ⊢
    rw [runOn_writeAll_cons]
    exact .cons (o.write_spec f.className f.content d) (ih _)

namespace WritesAll

variable {o : Options} {d d' : Disk} {files : List Generated} {entries : List Entry}

/-- The paths of the classes. -/
def paths (o : Options) (files : List Generated) : List String :=
  files.map fun f => o.pathOf f.className

theorem frame (h : WritesAll o d files entries d') {path : String} (hpath : path ∉ paths o files) :
    d'.files.get? path = d.files.get? path := by
  induction h with
  | nil => rfl
  | cons hfirst _ ih =>
    obtain ⟨hne, hrest⟩ := List.ne_and_not_mem_of_not_mem_cons hpath
    rw [ih hrest, hfirst.frame hne]

theorem state_of_dryRun (h : WritesAll o d files entries d') (hdry : o.dryRun = true) : d' = d := by
  induction h with
  | nil => rfl
  | cons hfirst _ ih => rw [ih, hfirst.state_of_dryRun hdry]

end WritesAll

end Output

end TableClasses
