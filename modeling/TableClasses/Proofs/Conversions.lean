import TableClasses.Proofs.Evaluation

/-!
# Conversions of a data class

What `hydrate` and `dehydrate` build is one lasting statement each: the first wraps the value of a
row, the second unwraps the value of an object. Neither converts null, since an expression of a
column that may hold null is guarded, and a value that is wrapped is not null.
-/

namespace TableClasses.Classes

open TableClasses.Text TableClasses.Code TableClasses.ValueObject

/-! ## Conversions of values -/

section
variable {V : Type} {p : Platform V} {k : Kinds V} {format : String} {c : Column} {v : V}

variable (p c) in
/-- The value of the object for a raw value other than null. -/
def Platform.inward : V → V :=
  match c.valueObject with
  | some m => p.wrap m
  | none =>
    match c.scalar with
    | .json => p.decodeJson
    | .datetime => p.makeDate
    | _ => id

theorem Kinds.of_none (h : c.valueObject = none) : k.of c = k.scalar c.scalar := by
  unfold of
  rw [h]

theorem Kinds.of_some {m : Mapping} (h : c.valueObject = some m) : k.of c = k.object m := by
  unfold of
  rw [h]

namespace Platform

theorem inward_some {m : Mapping} (h : c.valueObject = some m) : p.inward c = p.wrap m := by
  unfold inward
  rw [h]

theorem invoke_resolve {call : MethodCall} {i : Imports} {className ref : String}
    (h : call.kind = .onClass → i.resolve ref = trimLeadingBackslashes className) :
    p.invoke call (i.resolve ref) = p.invoke call (trimLeadingBackslashes className) := by
  funext v
  unfold invoke
  cases hkind : call.kind with
  | onClass => rw [h hkind]
  | onValue => rfl

namespace Lawful

theorem cast_eq (hp : p.Lawful k format) {s : Scalar} {type : String} (hv : k.scalar s v)
    (htype : s.cast? = some type) : p.cast type v = v := by
  cases s with
  | int => cases htype; exact hp.cast_int hv
  | float => cases htype; exact hp.cast_float hv
  | bool => cases htype; exact hp.cast_bool hv
  | string => cases htype; exact hp.cast_string hv
  | json => cases htype
  | datetime => cases htype

theorem ne_null (hp : p.Lawful k format) (hv : k.of c v) : v ≠ p.null := by
  cases hc : c.valueObject with
  | none =>
    rw [Kinds.of_none hc] at hv
    exact hp.scalar_ne_null hv
  | some m =>
    rw [Kinds.of_some hc] at hv
    exact hp.object_ne_null hv

theorem inward_ne_null (hp : p.Lawful k format) (hv : k.of c v) : p.inward c v ≠ p.null := by
  have hnull := hp.ne_null hv
  cases hc : c.valueObject with
  | none =>
    rw [Kinds.of_none hc] at hv
    unfold inward
    rw [hc]
    cases hs : c.scalar with
    | json => exact hp.decodeJson_ne_null (hs ▸ hv)
    | datetime => exact hp.makeDate_ne_null (hs ▸ hv)
    | _ => exact hnull
  | some m =>
    rw [Kinds.of_some hc] at hv
    rw [inward_some hc]
    exact hp.wrap_ne_null hv

end Lawful

variable [DecidableEq V]

variable (p c) in
/-- The value of the object for a raw value. -/
def inside (v : V) : V := if v = p.null then p.null else p.inward c v

theorem inside_null : p.inside c p.null = p.null := if_pos rfl

theorem Lawful.inside_eq (hp : p.Lawful k format) (hv : k.of c v) : p.inside c v = p.inward c v :=
  if_neg (hp.ne_null hv)

theorem convert_of_ne_null {f : V → V} (h : v ≠ p.null) : p.convert f v = some (f v) := if_neg h

end Platform

/-! ## Values of expressions -/

section
variable [DecidableEq V] {i : Imports} {row object : Entries V} {scope : Scope V}
  {guard e : Expression} {name : String}

theorem eval_entry_row (h : row.get? name = some v) :
    (Expression.entry "row" name).eval p i (.ofRow row) = some v := h

theorem eval_field_object (h : object.get? name = some v) :
    (Expression.field name).eval p i (.ofObject object) = some v := h

theorem eval_ifSet_null (h : guard.eval p i scope = some p.null) :
    (Expression.ifSet guard e).eval p i scope = some p.null := by
  rw [Expression.eval, h]
  exact if_pos rfl

theorem eval_ifSet_of_ne_null (h : guard.eval p i scope = some v) (hv : v ≠ p.null) :
    (Expression.ifSet guard e).eval p i scope = e.eval p i scope := by
  rw [Expression.eval, h]
  exact if_neg hv

theorem eval_unlessNull_null (h : guard.eval p i scope = some p.null) :
    (Expression.unlessNull guard e).eval p i scope = some p.null := by
  rw [Expression.eval, h, Option.bind_some]
  exact if_pos rfl

theorem eval_unlessNull_of_ne_null (h : guard.eval p i scope = some v) (hv : v ≠ p.null) :
    (Expression.unlessNull guard e).eval p i scope = e.eval p i scope := by
  rw [Expression.eval, h, Option.bind_some]
  exact if_neg hv

end

/-! ## Building expressions -/

variable [DecidableEq V]

variable (p k) in
/-- An expression of `fromRow` that takes the value of a column inside. -/
def Expression.Hydrates (i : Imports) (c : Column) (e : Expression) : Prop :=
  ∀ (row : Entries V) v, row.get? c.name = some v → p.Fits k c v →
    e.eval p i (.ofRow row) = some (p.inside c v)

variable (p k) in
/-- An expression of `toDatabaseArray` that gives the raw value of a column back. -/
def Expression.Dehydrates (i : Imports) (c : Column) (e : Expression) : Prop :=
  ∀ (object : Entries V) v, p.Fits k c v → object.get? c.field = some (p.inside c v) →
    e.eval p i (.ofObject object) = some v

/-- A raw value is converted as its column says. -/
theorem lasting_fromRaw (hp : p.Lawful k format) (c : Column) (raw : Expression) :
    Lasting (fromRaw c raw) fun i e => ∀ scope v, raw.eval p i scope = some v → k.of c v →
      e.eval p i scope = some (p.inward c v) := by
  unfold fromRaw
  cases hc : c.valueObject with
  | some m =>
    refine (lasting_callReference m.className m.fromRaw).bind fun ref => .pure ?_
    intro i href scope v hraw hv
    rw [Expression.eval, hraw, Option.bind_some, p.convert_of_ne_null (hp.ne_null hv),
      Platform.invoke_resolve href, Platform.inward_some hc]
    rfl
  | none =>
    refine .pure fun i scope v hraw hv => ?_
    have hconvert : ∀ f, p.convert f v = some (f v) :=
      fun f => p.convert_of_ne_null (hp.ne_null hv)
    rw [Kinds.of_none hc] at hv
    unfold Platform.inward
    rw [hc]
    cases hs : c.scalar with
    | json => simp only [Expression.eval, hraw, Option.bind_some, hconvert]
    | datetime => simp only [Expression.eval, hraw, Option.bind_some, hconvert]
    | _ =>
      rw [hs] at hv
      simp only [Scalar.cast?, Expression.eval, hraw, Option.bind_some, hconvert,
        hp.cast_eq hv rfl, id]

/-- The value of a row's entry goes inside, without a conversion of null. -/
theorem lasting_hydrate (hp : p.Lawful k format) (c : Column) :
    Lasting (hydrate c) fun i e => e.Hydrates p k i c := by
  unfold hydrate
  refine (lasting_fromRaw hp c _).bind fun value => .pure ?_
  intro i hvalue row v hrow hfits
  rcases hfits with hv | ⟨rfl, hnullable⟩
  · have heval := hvalue _ v (eval_entry_row hrow) hv
    rw [hp.inside_eq hv]
    split
    · rw [eval_ifSet_of_ne_null (eval_entry_row hrow) (hp.ne_null hv)]
      exact heval
    · exact heval
  · rw [if_pos hnullable, Platform.inside_null]
    exact eval_ifSet_null (eval_entry_row hrow)

/-- The raw value comes back if the column converts its values at all. -/
theorem lasting_toRaw? (hp : p.Lawful k format) (c : Column) (value : Expression) :
    Lasting (toRaw? format c value) fun i e? => ∀ scope v, k.of c v →
      value.eval p i scope = some (p.inward c v) →
        (e?.getD value).eval p i scope = some v := by
  unfold toRaw?
  cases hc : c.valueObject with
  | some m =>
    refine (lasting_callReference m.className m.toRaw).bind fun ref => .pure ?_
    intro i href scope v hv hvalue
    rw [Option.getD_some, Expression.eval, hvalue, Option.bind_some,
      p.convert_of_ne_null (hp.inward_ne_null hv), Platform.invoke_resolve href,
      Platform.inward_some hc]
    rw [Kinds.of_some hc] at hv
    exact congrArg some (hp.unwrap_wrap hv)
  | none =>
    refine .pure fun i scope v hv hvalue => ?_
    have hnull := hp.inward_ne_null hv
    rw [Kinds.of_none hc] at hv
    unfold Platform.inward at hnull hvalue
    rw [hc] at hnull hvalue
    cases hs : c.scalar with
    | json =>
      rw [hs] at hv hnull hvalue
      simp only [Option.getD_some, Expression.eval, hvalue, Option.bind_some,
        p.convert_of_ne_null hnull, hp.encodeJson_decodeJson hv]
    | datetime =>
      rw [hs] at hv hnull hvalue
      simp only [Option.getD_some, Expression.eval, hvalue, Option.bind_some,
        p.convert_of_ne_null hnull, hp.formatDate_makeDate hv]
    | _ =>
      rw [hs] at hvalue
      exact hvalue

/-- The value inside goes back to the database, without a conversion of null. -/
theorem lasting_dehydrate (hp : p.Lawful k format) (c : Column) :
    Lasting (dehydrate format c) fun i e => e.Dehydrates p k i c := by
  unfold dehydrate
  refine (lasting_toRaw? hp c _).bind fun converted => ?_
  cases converted with
  | none =>
    refine .pure fun i hraw object v hfits hfield => ?_
    have hmember := eval_field_object (p := p) (i := i) hfield
    rcases hfits with hv | ⟨rfl, -⟩
    · rw [hp.inside_eq hv] at hmember
      exact hraw _ v hv hmember
    · rw [hmember, Platform.inside_null]
  | some converted =>
    refine .pure fun i hraw object v hfits hfield => ?_
    have hmember := eval_field_object (p := p) (i := i) hfield
    rcases hfits with hv | ⟨rfl, hnullable⟩
    · rw [hp.inside_eq hv] at hmember
      have heval := hraw _ v hv hmember
      split
      · rw [eval_unlessNull_of_ne_null hmember (hp.inward_ne_null hv)]
        exact heval
      · exact heval
    · rw [Platform.inside_null] at hmember
      rw [if_pos hnullable]
      exact eval_unlessNull_null hmember

end

end TableClasses.Classes
