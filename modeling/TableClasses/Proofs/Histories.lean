import TableClasses.Proofs.Resolution

/-!
# Histories of a mapper

Types are resolved and families are registered in any order. What a mapper has become by then is
`Alike` to a mapper that is built at once with the families registered so far: registering forgets
what was remembered, and resolving remembers only what is true of the families at hand.
-/

namespace TableClasses.ValueObject

/-- The mapping of a type; none also for a type that is refused. -/
def Conversions.granted? (c : Conversions) (type : String) : Option Mapping :=
  match c.resolve type with
  | .ok mapping => mapping
  | .error _ => none

theorem Conversions.resolve_of_granted? {c : Conversions} {name : String} {m : Mapping}
    (h : c.granted? name = some m) : c.resolve name = .ok (some m) := by
  unfold Conversions.granted? at h
  split at h
  · next hresolve => rw [hresolve, h]
  · cases h

namespace Mapper

/-- A call on a mapper. -/
inductive Call where
  | resolve (type : String)
  | register (type : String) (family : Family)

def after (m : Mapper) : Call → Mapper
  | .resolve type => (m.resolve type).value.2
  | .register type family => m.register type family

/-- The mapper after calls in order. -/
def run (m : Mapper) (calls : List Call) : Mapper := calls.foldl after m

/-- The family that a call registers, with its type. -/
def Call.registered? : Call → Option (String × Family)
  | .resolve _ => none
  | .register type family => some (type, family)

/-- The families that calls register, in order. -/
def registered (calls : List Call) : List (String × Family) := calls.filterMap Call.registered?

/-- A mapper that is given families and has not resolved anything. -/
def build (catalog : Catalog) (families : List (String × Family)) : Mapper :=
  families.foldl (fun m f => m.register f.1 f.2) (.ofCatalog catalog)

/-! ## One call -/

/-- Mappers that answer alike do so after one of them is asked. -/
theorem Alike.after_resolve {m m' : Mapper} (h : Alike m m') (type : String) :
    Alike (m.after (.resolve type)) m' :=
  (alike_resolve m type).symm.trans h

/-- Registering leaves nothing in which mappers with the same families could differ. -/
theorem Alike.register {m m' : Mapper} (h : Alike m m') (type : String) (family : Family) :
    Alike (m.register type family) (m'.register type family) := by
  unfold Mapper.register
  rw [h.conversions]
  exact .refl _

/-! ## Runs of calls -/

theorem run_cons (m : Mapper) (c : Call) (calls : List Call) :
    m.run (c :: calls) = (m.after c).run calls := rfl

/-- The run: a mapper with a history is like one that only had the registrations of it. -/
theorem Alike.run {m m' : Mapper} (h : Alike m m') (calls : List Call) :
    Alike (m.run calls) ((registered calls).foldl (fun m f => m.register f.1 f.2) m') := by
  induction calls generalizing m m' with
  | nil => exact h
  | cons c rest ih =>
    rw [run_cons]
    cases c with
    | resolve type => exact ih (h.after_resolve type)
    | register type family => exact ih (h.register type family)

theorem alike_build (catalog : Catalog) (calls : List Call) :
    Alike ((ofCatalog catalog).run calls) (build catalog (registered calls)) :=
  (Alike.refl (ofCatalog catalog)).run calls

theorem Alike.resolve {m m' : Mapper} (h : Alike m m') (type : String) :
    (m.resolve type).value.1 = (m'.resolve type).value.1 := by
  rw [resolve_value, resolve_value, h.look]

/-! ## Answers of the conversions -/

theorem answer_value (c : Conversions) (name : String) : (answer c name).value = c.granted? name := by
  unfold answer Conversions.granted?
  cases c.resolve name <;> rfl

theorem answers_build (catalog : Catalog) (families : List (String × Family)) :
    (build catalog families).answers = [] := by
  have hnil : ∀ m : Mapper, m.answers = [] →
      (families.foldl (fun m f => m.register f.1 f.2) m).answers = [] := by
    induction families with
    | nil => exact fun m h => h
    | cons f rest ih => exact fun m _ => ih (m.register f.1 f.2) rfl
  exact hnil _ rfl

/-- A mapper that has not resolved anything asks its conversions. -/
theorem look_build (catalog : Catalog) (families : List (String × Family)) (name : String) :
    (build catalog families).look name = (build catalog families).conversions.granted? name := by
  unfold look
  rw [answers_build]
  exact answer_value _ name

theorem look_run (catalog : Catalog) (calls : List Call) (name : String) :
    ((ofCatalog catalog).run calls).look name
      = ((ofCatalog catalog).run calls).conversions.granted? name := by
  have halike := alike_build catalog calls
  rw [halike.look, halike.conversions, look_build]

theorem catalog_build (catalog : Catalog) (families : List (String × Family)) :
    (build catalog families).conversions.catalog = catalog := by
  have hbuild : ∀ m : Mapper, (families.foldl (fun m f => m.register f.1 f.2) m).conversions.catalog
      = m.conversions.catalog := by
    induction families with
    | nil => exact fun m => rfl
    | cons f rest ih => exact fun m => ih (m.register f.1 f.2)
  exact hbuild _

theorem catalog_after (m : Mapper) (call : Call) :
    (m.after call).conversions.catalog = m.conversions.catalog := by
  cases call with
  | resolve type => rw [after, (alike_resolve m type).conversions]
  | register type family => rfl

theorem catalog_run (catalog : Catalog) (calls : List Call) :
    ((ofCatalog catalog).run calls).conversions.catalog = catalog := by
  have hrun : ∀ m : Mapper, (m.run calls).conversions.catalog = m.conversions.catalog := by
    induction calls with
    | nil => exact fun m => rfl
    | cons call rest ih => exact fun m => (ih (m.after call)).trans (catalog_after m call)
  exact hrun _

/-- Whatever was resolved and registered before, and under whichever spellings, a type is resolved
as by a mapper that was just built with the families registered so far. -/
theorem resolve_run_eq_build (catalog : Catalog) (calls : List Call) (type : String) :
    (((ofCatalog catalog).run calls).resolve type).value.1
      = ((build catalog (registered calls)).resolve type).value.1 :=
  (alike_build catalog calls).resolve type

end Mapper

end TableClasses.ValueObject
