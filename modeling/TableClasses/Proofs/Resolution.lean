import TableClasses.Schema.Normalize

/-!
# What a mapper remembers does not matter

A mapper answers from memory what it answered before. `Alike` relates mappers that give the same
answers, whatever they remember; a mapper stays alike itself while it resolves types. `Steady` work
resolves types on the way and gives the same result with alike mappers. Every step that makes a
column is steady, so the columns and tables before it have no influence on it.
-/

namespace TableClasses

namespace ValueObject.Mapper

/-- The answer for a normalized name, remembered or not. -/
def look (m : Mapper) (name : String) : Option Mapping :=
  match m.answers.get? name with
  | some mapping => mapping
  | none => (answer m.conversions name).value

/-- Mappers that answer alike. -/
structure Alike (m m' : Mapper) : Prop where
  conversions : m.conversions = m'.conversions
  look : ∀ name, m.look name = m'.look name

theorem Alike.refl (m : Mapper) : Alike m m := ⟨rfl, fun _ => rfl⟩

theorem Alike.symm {m m' : Mapper} (h : Alike m m') : Alike m' m :=
  ⟨h.conversions.symm, fun name => (h.look name).symm⟩

theorem Alike.trans {m m' m'' : Mapper} (h : Alike m m') (h' : Alike m' m'') : Alike m m'' :=
  ⟨h.conversions.trans h'.conversions, fun name => (h.look name).trans (h'.look name)⟩

theorem Alike.isKnown {m m' : Mapper} (h : Alike m m') (type : String) :
    m.isKnown type = m'.isKnown type := by
  unfold Mapper.isKnown
  rw [h.conversions]

/-- Remembering an answer leaves all answers as they are. -/
theorem alike_put (m : Mapper) {name : String} (h : m.answers.get? name = none) :
    Alike m { m with answers := m.answers.put name (answer m.conversions name).value } := by
  refine ⟨rfl, fun other => ?_⟩
  unfold Mapper.look
  by_cases ho : name = other
  · subst ho
    rw [h, Entries.get?_put_self]
  · rw [Entries.get?_put_of_ne _ _ ho]

theorem resolve_value (m : Mapper) (type : String) :
    (m.resolve type).value.1
      = if normalizeName type = "" then none else m.look (normalizeName type) := by
  simp only [resolve, look]
  split
  · simp
  · cases m.answers.get? (normalizeName type) <;> simp

theorem alike_resolve (m : Mapper) (type : String) : Alike m (m.resolve type).value.2 := by
  simp only [resolve]
  split
  · exact .refl m
  · split
    · exact .refl m
    · next h => exact alike_put m h

end ValueObject.Mapper

namespace Schema

open ValueObject ValueObject.Mapper

variable {α β : Type}

/-! ## Running work with a mapper -/

theorem bind_apply (x : Normalizing α) (f : α → Normalizing β) (m : Mapper) :
    (x >>= f) m = x m >>= fun p => f p.1 p.2 := rfl

theorem pure_apply (a : α) (m : Mapper) : (pure a : Normalizing α) m = pure (a, m) := rfl

theorem lift_apply (x : Warned α) (m : Mapper) :
    (liftM x : Normalizing α) m = x >>= fun a => pure (a, m) := rfl

theorem get_bind_apply (f : Mapper → Normalizing α) (m : Mapper) : (get >>= f) m = f m m := rfl

theorem resolveType_apply (type : String) (m : Mapper) : resolveType type m = m.resolve type := rfl

/-! ## Steady work -/

/-- Work that gives the same with alike mappers and leaves the mapper alike. -/
structure Steady (x : Normalizing α) : Prop where
  alike : ∀ m, Alike m (x m).value.2
  value : ∀ {m m'}, Alike m m' → (x m).value.1 = (x m').value.1

namespace Steady

theorem pure (a : α) : Steady (Pure.pure a) := ⟨.refl, fun _ => rfl⟩

theorem lift (x : Warned α) : Steady (liftM x : Normalizing α) := ⟨.refl, fun _ => rfl⟩

theorem bind {x : Normalizing α} {f : α → Normalizing β} (hx : Steady x)
    (hf : ∀ a, Steady (f a)) : Steady (x >>= f) where
  alike m := by
    rw [bind_apply]
    exact (hx.alike m).trans ((hf _).alike _)
  value {m m'} h := by
    rw [bind_apply, bind_apply, Warned.value_bind, Warned.value_bind, hx.value h]
    exact (hf _).value (((hx.alike m).symm.trans h).trans (hx.alike m'))

theorem resolveType (type : String) : Steady (resolveType type) where
  alike m := by
    rw [resolveType_apply]
    exact alike_resolve m type
  value {m m'} h := by
    rw [resolveType_apply, resolveType_apply, resolve_value, resolve_value, h.look]

/-- A choice by whether a type is known. -/
theorem known (type : String) {x y : Normalizing α} (hx : Steady x) (hy : Steady y) :
    Steady (get >>= fun m : Mapper => if m.isKnown type then x else y) where
  alike m := by
    rw [get_bind_apply]
    split
    · exact hx.alike m
    · exact hy.alike m
  value {m m'} h := by
    rw [get_bind_apply, get_bind_apply, h.isKnown type]
    split
    · exact hx.value h
    · exact hy.value h

theorem mapM {f : α → Normalizing β} (hf : ∀ a, Steady (f a)) (l : List α) :
    Steady (l.mapM f) := by
  induction l with
  | nil => simpa using Steady.pure []
  | cons a rest ih =>
    rw [List.mapM_cons]
    exact (hf a).bind fun _ => ih.bind fun _ => .pure _

theorem foldlM {f : β → α → Normalizing β} (hf : ∀ b a, Steady (f b a)) (l : List α) (b : β) :
    Steady (l.foldlM f b) := by
  induction l generalizing b with
  | nil => simpa using Steady.pure b
  | cons a rest ih =>
    rw [List.foldlM_cons]
    exact (hf b a).bind ih

/-- Each item is worked on as if the mapper had just been given. -/
theorem value_mapM {f : α → Normalizing β} (hf : ∀ a, Steady (f a)) (l : List α) (m : Mapper) :
    (l.mapM f m).value.1 = l.map fun a => (f a m).value.1 := by
  induction l generalizing m with
  | nil => rfl
  | cons a rest ih =>
    rw [List.mapM_cons, List.map_cons, bind_apply, Warned.value_bind, bind_apply,
      Warned.value_bind, ((mapM hf rest).value ((hf a).alike m).symm), ih m]
    rfl

end Steady

/-! ## Columns -/

variable (overlay : Option Overlay) (table : String)

theorem steady_classify (dataType : String) : Steady (classify dataType) := by
  unfold classify
  refine .known dataType ?_ ?_
  · exact (Steady.resolveType dataType).bind fun _ => .pure _
  · exact (Steady.lift _).bind fun _ => .pure _

theorem steady_withTypeClass (column : String) (mapping : Option Mapping) (type : Option String) :
    Steady (withTypeClass table column mapping type) := by
  cases type with
  | none => exact .pure mapping
  | some type =>
    unfold withTypeClass
    refine .known type ?_ ?_
    · exact (Steady.resolveType type).bind fun _ => .pure _
    · exact (Steady.lift _).bind fun _ => .pure _

theorem steady_columnOf (s : Source) : Steady (columnOf overlay table s) := by
  unfold columnOf
  refine (Steady.lift _).bind fun options => ?_
  refine (steady_classify s.dataType).bind fun (scalar, mapping) => ?_
  exact (steady_withTypeClass table s.name mapping options.typeClass).bind fun _ => .pure _

theorem steady_recordColumn (name : String) (readOnly : Bool) (r : Record) :
    Steady (recordColumn overlay table name readOnly r) := by
  unfold recordColumn
  split
  · exact (Steady.lift _).bind fun _ => .pure _
  · refine (Steady.lift _).bind fun source => ?_
    exact (steady_columnOf overlay table source).bind fun _ => .pure _

end Schema

end TableClasses
