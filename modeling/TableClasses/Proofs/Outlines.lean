import Mathlib.Data.List.Forall2
import TableClasses.Classes.Data
import TableClasses.Proofs.Defaults
import TableClasses.Proofs.References

/-!
# Outlines of data classes

Expressions are built while the imports of the file still grow, and they are read when the file is
complete. `Lasting x P` says that whatever imports `x` starts from, its result satisfies `P` for
all later imports; it is closed under the ways in which the parts of a class are put together.
`Built` says that the parts of an outline are those of the columns, in the order of the columns; an
outline is built of whatever lasts for the expressions of single columns.
-/

namespace TableClasses.Classes

open TableClasses.Text TableClasses.Code

/-! ## Lasting results -/

section
variable {α β : Type}

theorem importing_bind (x : Importing α) (f : α → Importing β) (i : Imports) :
    (x >>= f) i = f (x i).1 (x i).2 := rfl

theorem importing_pure (a : α) (i : Imports) : (pure a : Importing α) i = (a, i) := rfl

/-- Work on imports whose result satisfies `P`, also after any growth of the imports. -/
def Lasting (x : Importing α) (P : Imports → α → Prop) : Prop :=
  ∀ i : Imports, i.Sound →
    (x i).2.Sound ∧ i.Grows (x i).2 ∧ ∀ k : Imports, (x i).2.Grows k → k.Sound → P k (x i).1

namespace Lasting

theorem pure {a : α} {P : Imports → α → Prop} (h : ∀ i, P i a) : Lasting (Pure.pure a) P :=
  fun i hi => ⟨hi, .refl i, fun k _ _ => h k⟩

/-- What the first step gives still holds when the second is done. -/
theorem bind {x : Importing α} {f : α → Importing β} {P : Imports → α → Prop}
    {Q : Imports → β → Prop} (hx : Lasting x P)
    (hf : ∀ a, Lasting (f a) fun i b => P i a → Q i b) : Lasting (x >>= f) Q := by
  intro i hi
  obtain ⟨hsound, hgrows, hP⟩ := hx i hi
  obtain ⟨hsound', hgrows', hQ⟩ := hf (x i).1 (x i).2 hsound
  refine ⟨hsound', hgrows.trans hgrows', fun k hk hks => ?_⟩
  exact hQ k hk hks (hP k (hgrows'.trans hk) hks)

theorem mono {x : Importing α} {P Q : Imports → α → Prop} (hx : Lasting x P)
    (h : ∀ i a, P i a → Q i a) : Lasting x Q := by
  intro i hi
  obtain ⟨hsound, hgrows, hP⟩ := hx i hi
  exact ⟨hsound, hgrows, fun k hk hks => h k _ (hP k hk hks)⟩

theorem mapM {f : α → Importing β} {P : α → Imports → β → Prop} {l : List α}
    (h : ∀ a ∈ l, Lasting (f a) (P a)) :
    Lasting (l.mapM f) fun i bs => List.Forall₂ (fun a b => P a i b) l bs := by
  induction l with
  | nil => exact .pure fun _ => .nil
  | cons a rest ih =>
    rw [List.forall_mem_cons] at h
    rw [List.mapM_cons]
    exact h.1.bind fun b => (ih h.2).bind fun bs => .pure fun i hbs hb => .cons hb hbs

theorem reference (className : String) :
    Lasting (reference className) fun i ref =>
      i.resolve ref = trimLeadingBackslashes className := by
  intro i hi
  refine ⟨?_, ?_, fun k hk hks => ?_⟩
  · exact (Imports.use_spec i className).sound hi
  · exact (Imports.use_spec i className).grows
  · exact Imports.resolve_use_of_grows className hk hks

end Lasting

end

theorem lasting_callReference (className : String) (call : ValueObject.MethodCall) :
    Lasting (callReference className call) fun i ref =>
      call.kind = .onClass → i.resolve ref = trimLeadingBackslashes className := by
  unfold callReference
  cases hkind : call.kind with
  | onClass => exact (Lasting.reference className).mono fun _ _ h _ => h
  | onValue => exact .pure fun _ h => nomatch h

/-! ## Members -/

section
variable {T : Imports → Column → TypeRef → Prop} {c : Column}
  (hT : Lasting (memberType c) fun i type => T i c type)
include hT

theorem lasting_memberOf_typed :
    Lasting (memberOf c) fun i m => m.column = c ∧ T i c m.type :=
  hT.bind fun _ => .pure fun _ h => ⟨rfl, h⟩

theorem lasting_readOnlyMember_typed :
    Lasting (readOnlyMember c) fun i m =>
      m.1.column = c ∧ T i c m.1.type ∧ T i c m.2.1 ∧ T i c m.2.2 :=
  (lasting_memberOf_typed hT).bind fun _ => hT.bind fun _ => hT.bind fun _ =>
    .pure fun _ hgetter hsetter hmember => ⟨hmember.1, hmember.2, hsetter, hgetter⟩

end

theorem lasting_memberType (c : Column) : Lasting (memberType c) fun _ _ => True := by
  unfold memberType
  cases c.valueObject with
  | none => exact .pure fun _ => trivial
  | some m => exact (Lasting.reference m.interfaceName).bind fun _ => .pure fun _ _ => trivial

theorem lasting_memberOf (c : Column) : Lasting (memberOf c) fun _ m => m.column = c :=
  (lasting_memberOf_typed (T := fun _ _ _ => True) (lasting_memberType c)).mono fun _ _ h => h.1

/-! ## The outline of a table -/

theorem forall₂_exists {α β : Type} {R : α → β → Prop} {l : List α} {bs : List β}
    (h : List.Forall₂ R l bs) {b : β} (hb : b ∈ bs) : ∃ a ∈ l, R a b := by
  induction h with
  | nil => cases hb
  | cons hab _ ih =>
    obtain rfl | hb := List.mem_cons.1 hb
    · exact ⟨_, List.mem_cons_self, hab⟩
    · obtain ⟨a, ha, hab⟩ := ih hb
      exact ⟨a, List.mem_cons_of_mem _ ha, hab⟩

/-- An outline with the columns of a table, where `H` holds for what is done with a row's value and
`D` for what is done with a member's value. -/
structure Built (t : Table) (H D : Imports → Column → Expression → Prop) (i : Imports)
    (o : Outline) : Prop where
  parameters : List.Forall₂ (fun c m => m.1.column = c) t.readWrite o.parameters
  readOnly : List.Forall₂ (fun c m => m.1.column = c) t.readOnly o.readOnly
  rowArguments : List.Forall₂ (H i) t.readWrite o.rowArguments
  rowSetters : List.Forall₂ (fun c e => e.1 = c.setter ∧ H i c e.2) t.readOnly o.rowSetters
  databaseEntries :
    List.Forall₂ (fun c e => e.1 = c.name ∧ D i c e.2) t.readWrite o.databaseEntries

/-- The types of an outline's members, for which `T` holds, and the reference to its interface. -/
structure Typed (t : Table) (interfaceName : String) (T : Imports → Column → TypeRef → Prop)
    (i : Imports) (o : Outline) : Prop where
  interface : i.resolve o.interface = trimLeadingBackslashes interfaceName
  parameters : List.Forall₂ (fun c m => m.1.column = c ∧ T i c m.1.type) t.readWrite o.parameters
  readWrite : List.Forall₂ (fun c m => m.column = c ∧ T i c m.type) t.readWrite o.readWrite
  readOnly : List.Forall₂
    (fun c m => m.1.column = c ∧ T i c m.1.type ∧ T i c m.2.1 ∧ T i c m.2.2) t.readOnly o.readOnly

theorem forall₂_zip {P : Column → Member → Prop} {members : List Member}
    {defaults : List (Option Literal)} {columns : List Column}
    (h : List.Forall₂ P columns members) (hlength : defaults.length = columns.length) :
    List.Forall₂ (fun c m => P c m.1) columns (members.zip defaults) := by
  induction h generalizing defaults with
  | nil => exact .nil
  | cons hc _ ih =>
    cases defaults with
    | nil => cases hlength
    | cons d rest => exact .cons hc (ih (Nat.succ.inj hlength))

theorem lasting_outline {t : Table} {r : Rendering} {defaults : List (Option Literal)}
    {T : Imports → Column → TypeRef → Prop} {H D : Imports → Column → Expression → Prop}
    (hT : ∀ c ∈ t.columns, Lasting (memberType c) fun i type => T i c type)
    (hH : ∀ c ∈ t.columns, Lasting (hydrate c) fun i e => H i c e)
    (hD : ∀ c ∈ t.columns, Lasting (dehydrate r.datetimeFormat c) fun i e => D i c e)
    (hdefaults : defaults.length = t.readWrite.length) :
    Lasting (outline t r defaults) fun i o =>
      Built t H D i o ∧ Typed t r.library.dataInterface T i o := by
  have hmember : ∀ c ∈ t.readWrite, Lasting (memberOf c) fun i m => m.column = c ∧ T i c m.type :=
    fun c hc => lasting_memberOf_typed (hT c (List.mem_of_mem_filter hc))
  have hreadOnlyMember : ∀ c ∈ t.readOnly, Lasting (readOnlyMember c) fun i m =>
      m.1.column = c ∧ T i c m.1.type ∧ T i c m.2.1 ∧ T i c m.2.2 :=
    fun c hc => lasting_readOnlyMember_typed (hT c (List.mem_of_mem_filter hc))
  have hargument : ∀ c ∈ t.readWrite, Lasting (hydrate c) fun i e => H i c e :=
    fun c hc => hH c (List.mem_of_mem_filter hc)
  have hsetter : ∀ c ∈ t.readOnly, Lasting (do return (c.setter, ← hydrate c))
      fun i e => e.1 = c.setter ∧ H i c e.2 :=
    fun c hc => (hH c (List.mem_of_mem_filter hc)).bind fun _ => .pure fun _ h => ⟨rfl, h⟩
  have hentry : ∀ c ∈ t.readWrite,
      Lasting (do return (c.name, ← dehydrate r.datetimeFormat c))
        fun i e => e.1 = c.name ∧ D i c e.2 :=
    fun c hc => (hD c (List.mem_of_mem_filter hc)).bind fun _ => .pure fun _ h => ⟨rfl, h⟩
  unfold outline
  refine (Lasting.reference _).bind fun interface => ?_
  refine (Lasting.mapM hmember).bind fun parameters => ?_
  refine (Lasting.mapM hargument).bind fun rowArguments => ?_
  refine (Lasting.mapM hsetter).bind fun rowSetters => ?_
  refine (Lasting.mapM hentry).bind fun databaseEntries => ?_
  refine (Lasting.mapM hmember).bind fun readWrite => ?_
  refine (Lasting.mapM hreadOnlyMember).bind fun readOnly => .pure ?_
  intro i hreadOnly hreadWrite hentries hsetters harguments hparameters hinterface
  have hzip := forall₂_zip hparameters hdefaults
  exact ⟨⟨hzip.imp fun _ _ h => h.1, hreadOnly.imp fun _ _ h => h.1, harguments, hsetters,
    hentries⟩, ⟨hinterface, hzip, hreadWrite, hreadOnly⟩⟩

/-- The outline of a table's data class, and the imports of its file. -/
def dataOutline (t : Table) (names : Names) (r : Rendering) : Outline × Imports :=
  outline t r (parameterDefaults t.readWrite).value
    (importsFor (names.namespaceOf .data) (names.className .data))

theorem dataFile_value (t : Table) (names : Names) (r : Rendering) :
    (dataFile t names r).value =
      { imports := (dataOutline t names r).2
        declared := (dataOutline t names r).1.declaration (names.className .data) } := by
  simp only [dataFile, dataOutline, Warned.value_bind]
  generalize outline t r _ _ = result
  obtain ⟨o, imports⟩ := result
  rfl

theorem sound_importsFor (namespaceName className : String) :
    (importsFor namespaceName className).Sound :=
  (Imports.sound_ofName namespaceName).reserve className

theorem dataOutline_arrayArguments (t : Table) (names : Names) (r : Rendering) :
    (dataOutline t names r).1.arrayArguments =
      t.readWrite.map fun c => .entry "data" (r.keyStyle.apply c.name) := by
  unfold dataOutline outline
  simp only [importing_bind, importing_pure]

/-- The parameters are the members of the read-write columns, each with its own default. -/
theorem dataOutline_parameters (t : Table) (names : Names) (r : Rendering) :
    ∃ members, List.Forall₂ (fun c m => m.column = c) t.readWrite members ∧
      (dataOutline t names r).1.parameters = members.zip (parameterDefaults t.readWrite).value := by
  unfold dataOutline outline
  simp only [importing_bind, importing_pure]
  have hmembers : Lasting (t.readWrite.mapM memberOf) _ :=
    .mapM fun c _ => lasting_memberOf c
  obtain ⟨hsound, -, -⟩ := Lasting.reference r.library.dataInterface _
    (sound_importsFor (names.namespaceOf .data) (names.className .data))
  obtain ⟨hsound', -, h⟩ := hmembers _ hsound
  exact ⟨_, h _ (.refl _) hsound', rfl⟩

section
variable {t : Table} {n : Names} {r : Rendering} {T : Imports → Column → TypeRef → Prop}
  {H D : Imports → Column → Expression → Prop}

/-- What lasts for the types and expressions of columns holds in the file of the data class. -/
theorem built_typed_dataOutline
    (hT : ∀ c ∈ t.columns, Lasting (memberType c) fun i type => T i c type)
    (hH : ∀ c ∈ t.columns, Lasting (hydrate c) fun i e => H i c e)
    (hD : ∀ c ∈ t.columns, Lasting (dehydrate r.datetimeFormat c) fun i e => D i c e) :
    Built t H D (dataOutline t n r).2 (dataOutline t n r).1 ∧
      Typed t r.library.dataInterface T (dataOutline t n r).2 (dataOutline t n r).1 := by
  obtain ⟨hsound, -, h⟩ := lasting_outline hT hH hD (length_parameterDefaults t.readWrite)
    (importsFor (n.namespaceOf .data) (n.className .data)) (sound_importsFor _ _)
  exact h _ (.refl _) hsound

theorem built_dataOutline
    (hH : ∀ c ∈ t.columns, Lasting (hydrate c) fun i e => H i c e)
    (hD : ∀ c ∈ t.columns, Lasting (dehydrate r.datetimeFormat c) fun i e => D i c e) :
    Built t H D (dataOutline t n r).2 (dataOutline t n r).1 :=
  (built_typed_dataOutline (T := fun _ _ _ => True) (fun c _ => lasting_memberType c) hH hD).1

end

end TableClasses.Classes
