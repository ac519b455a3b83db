import TableClasses.Proofs.Constants
import TableClasses.Proofs.Links

/-!
# Signatures of constructors

The constructor of a data class has one parameter for each read-write column. `Signature` says what
the parameters are, and which of them keep a default: those whose column and all later ones have
one. So no parameter with a default comes before one without. A default has the type of its
parameter, but for the least whole number of 64 bits: what is printed for it is read as a float.
-/

namespace TableClasses.Classes

open TableClasses.Code TableClasses.Decimal

/-! ## Parameters -/

/-- The parameter of a column with other columns after it. -/
structure IsParameter (i : Imports) (c : Column) (later : List Column) (p : Parameter) : Prop where
  name : p.name = c.field
  promoted : p.promoted = some .prot
  typed : ∃ type, p.type = some type ∧ TypeOf i c type
  default (l : Literal) : p.default = some l ↔ DefaultIs c l ∧ ∀ d ∈ later, ∃ l, DefaultIs d l

/-- The parameters of columns, in their order. -/
inductive Signature (i : Imports) : List Column → List Parameter → Prop
  | nil : Signature i [] []
  | cons {c : Column} {columns : List Column} {p : Parameter} {params : List Parameter} :
      IsParameter i c columns p → Signature i columns params →
      Signature i (c :: columns) (p :: params)

/-- A parameter need not be given. -/
def IsOptional (p : Parameter) : Prop := p.default ≠ none

namespace Signature

variable {i : Imports} {columns : List Column} {params : List Parameter}

theorem exists_isParameter (h : Signature i columns params) {p : Parameter} (hp : p ∈ params) :
    ∃ c later, IsParameter i c later p := by
  induction h with
  | nil => cases hp
  | cons hparam _ ih =>
    obtain rfl | hp := List.mem_cons.1 hp
    · exact ⟨_, _, hparam⟩
    · exact ih hp

theorem optional_of_forall (h : Signature i columns params)
    (hall : ∀ c ∈ columns, ∃ l, DefaultIs c l) : ∀ p ∈ params, IsOptional p := by
  induction h with
  | nil => exact List.forall_mem_nil _
  | cons hparam _ ih =>
    obtain ⟨⟨l, hl⟩, hlater⟩ := List.forall_mem_cons.1 hall
    refine List.forall_mem_cons.2 ⟨?_, ih hlater⟩
    rw [IsOptional, (hparam.default l).2 ⟨hl, hlater⟩]
    exact Option.some_ne_none l

theorem pairwise_optional (h : Signature i columns params) :
    params.Pairwise fun p q => IsOptional p → IsOptional q := by
  induction h with
  | nil => exact .nil
  | cons hparam hrest ih =>
    refine .cons (fun q hq hoptional => ?_) ih
    obtain ⟨l, hl⟩ := Option.ne_none_iff_exists'.1 hoptional
    exact hrest.optional_of_forall ((hparam.default l).1 hl).2 q hq

end Signature

/-! ## Types of defaults -/

/-- A constant may stand for a parameter of a type. -/
def Fits : Constant → TypeRef → Prop
  | .null, type => type.nullable = true
  | .bool _, type => type.name = "bool"
  | .int _, type => type.name = "int"
  | .float _, type => type.name = "float"
  | .string _, type => type.name = "string"

/-- The text of a parameter's default, if it has one, is a constant of the parameter's type. -/
def WellTyped (p : Parameter) : Prop :=
  ∃ type, p.type = some type ∧
    ∀ l, p.default = some l → ∃ k, constant? l.text.toList = some k ∧ Fits k type

/-- The least whole number of 64 bits. -/
def leastInt : Int := -(bound 63 : Int)

theorem natAbs_lt_iff {text : String} {i : Int} (h : int64Of? text = some i) :
    i.natAbs < bound 63 ↔ i ≠ leastInt := by
  obtain ⟨-, hrange⟩ := Option.filter_eq_some_iff.1 h
  simp only [inInt64, Bool.and_eq_true, decide_eq_true_eq] at hrange
  rw [leastInt]
  omega

/-- The default of a column fits into the type of the column's parameter. -/
theorem DefaultIs.fits_iff {i : Imports} {c : Column} {l : Literal} {type : TypeRef}
    (h : DefaultIs c l) (htype : TypeOf i c type) :
    (∃ k, constant? l.text.toList = some k ∧ Fits k type) ↔ l ≠ .int leastInt := by
  have hname {text : String} (hplain : PlainDefault c text) :
      type.name = c.scalar.signatureType := by
    have hmatch := htype.2
    rwa [hplain.unwrapped] at hmatch
  cases h with
  | null _ hnullable =>
    refine iff_of_true ⟨_, constant?_null, htype.1.trans hnullable⟩ (by simp)
  | bool hplain hscalar =>
    refine iff_of_true ⟨_, constant?_bool _, (hname hplain).trans (by rw [hscalar]; rfl)⟩ (by simp)
  | string hplain hscalar =>
    refine iff_of_true ⟨_, constant?_string _, (hname hplain).trans (by rw [hscalar]; rfl)⟩
      (by simp)
  | @float text x hplain hscalar _ hfinite =>
    cases x with
    | nan => cases hfinite
    | infinite _ => cases hfinite
    | finite negative m e =>
      obtain ⟨y, hy⟩ := constant?_float negative m e
      exact iff_of_true ⟨_, hy, (hname hplain).trans (by rw [hscalar]; rfl)⟩ (by simp)
  | @int text n hplain hscalar hn =>
    -- the only case in which the text may be read as a constant of another type
    obtain ⟨x, hx⟩ := constant?_int n
    have hint : type.name = "int" := (hname hplain).trans (by rw [hscalar]; rfl)
    rw [hx, ne_eq, Literal.int.injEq, ← ne_eq, ← natAbs_lt_iff hn]
    split
    · next hlt => exact iff_of_true ⟨_, rfl, hint⟩ hlt
    · next hge =>
      refine iff_of_false ?_ hge
      rintro ⟨k, hk, hfits⟩
      cases hk
      rw [Fits, hint] at hfits
      exact absurd hfits (by decide)

theorem IsParameter.wellTyped_iff {i : Imports} {c : Column} {later : List Column} {p : Parameter}
    (h : IsParameter i c later p) : WellTyped p ↔ p.default ≠ some (.int leastInt) := by
  obtain ⟨type, htype, hof⟩ := h.typed
  unfold WellTyped
  cases hdefault : p.default with
  | none => exact iff_of_true ⟨type, htype, fun l hl => nomatch hl⟩ (by simp)
  | some l =>
    have hfits := ((h.default l).1 hdefault).1.fits_iff hof
    simp [htype, hfits]

/-! ## The constructor of a data class -/

theorem dataOutline_defaults (t : Table) (names : Names) (r : Rendering) :
    (dataOutline t names r).1.parameters.map (·.2) = (parameterDefaults t.readWrite).value := by
  obtain ⟨members, hmembers, hparameters⟩ := dataOutline_parameters t names r
  rw [hparameters]
  exact List.map_snd_zip (by rw [length_parameterDefaults, hmembers.length_eq])

theorem signature_of_forall₂ {i : Imports} {columns : List Column}
    {parameters : List (Member × Option Literal)}
    (htyped : List.Forall₂ (fun c m => m.1.column = c ∧ TypeOf i c m.1.type) columns parameters)
    (hdefaults : parameters.map (·.2) = (parameterDefaults columns).value) :
    Signature i columns (parameters.map fun m =>
      { name := m.1.column.field, type := some m.1.type, default := m.2, promoted := some .prot })
    := by
  induction htyped with
  | nil => exact .nil
  | @cons c m columns parameters hm _ ih =>
    rw [List.map_cons, parameterDefaults_cons, List.cons_eq_cons] at hdefaults
    obtain ⟨hdefault, hrest⟩ := hdefaults
    refine .cons ⟨congrArg Column.field hm.1, rfl, ⟨m.1.type, rfl, hm.2⟩, fun l => ?_⟩ (ih hrest)
    dsimp only
    rw [hdefault, ← allDefault_iff, ← defaultLiteral_eq_some_iff]
    split
    · next hall => simp [hall]
    · next hall => simp [hall]

/-- The constructor of every data class has the parameters of the read-write columns, those with a
default after those without, and each default has the type of its parameter unless it is the least
whole number. -/
theorem constructor_signature (r : Rendering) (t : Table) :
    ∃ m, (build r .data t).value.declared.method? "__construct" = some m ∧
      Signature (build r .data t).value.imports t.readWrite m.params ∧
      (m.params.Pairwise fun p q => IsOptional p → IsOptional q) ∧
      ∀ p ∈ m.params, WellTyped p ↔ p.default ≠ some (.int leastInt) := by
  simp only [build, dataFile_value]
  generalize Names.ofTable r.baseNamespace t.name = names
  obtain ⟨-, htyped⟩ := built_typed_dataOutline (t := t) (r := r) (n := names)
    (fun c _ => lasting_typeOf c) (fun c _ => lasting_calls_hydrate c)
    (fun c _ => lasting_calls_dehydrate r.datetimeFormat c)
  have hdefaults := dataOutline_defaults t names r
  generalize dataOutline t names r = result at htyped hdefaults ⊢
  obtain ⟨o, i⟩ := result
  dsimp only at htyped hdefaults ⊢
  have hsignature : Signature i t.readWrite o.constructor.params :=
    signature_of_forall₂ htyped.parameters hdefaults
  refine ⟨o.constructor, rfl, hsignature, hsignature.pairwise_optional, fun p hp => ?_⟩
  obtain ⟨c, later, hparam⟩ := hsignature.exists_isParameter hp
  exact hparam.wellTyped_iff

/-- A table whose column has the least whole number as its default. -/
def leastTable : Table :=
  { name := "t"
    columns := [{ name := "n", scalar := .int, default := some "-9223372036854775808" }]
    primaryKey := none }

/-- The parameter of its constructor. -/
def leastParameter : Parameter :=
  { name := "n"
    type := some { name := "int" }
    default := some (.int leastInt)
    promoted := some .prot }

/-- The default of the parameter is read as a float, and is none for a whole number. -/
theorem leastTable_not_wellTyped :
    (build {} .data leastTable).value.declared.method? "__construct"
        = some { name := "__construct", params := [leastParameter] } ∧
      leastParameter.text = "protected int $n = -9223372036854775808" ∧
      ¬ WellTyped leastParameter := by
  refine ⟨by decide +kernel, by decide +kernel, ?_⟩
  rintro ⟨type, htype, htyped⟩
  cases htype
  obtain ⟨k, hk, hfits⟩ := htyped _ rfl
  obtain ⟨x, hx⟩ := constant?_int leastInt
  rw [hx, if_neg (by decide)] at hk
  cases hk
  have hname : "int" = "float" := hfits
  exact absurd hname (by decide)

end TableClasses.Classes
