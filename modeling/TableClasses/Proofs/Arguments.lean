import TableClasses.Proofs.Histories
import TableClasses.Proofs.Mappings

/-!
# Arguments of conversions

A method is admitted as a conversion if it requires one argument at most, however it is called. A
call on a class passes one and a call on a value none. So the calls of a mapping pass what their
methods require unless a method of objects requires an argument; such a method is admitted and then
called without it.
-/

namespace TableClasses.ValueObject

/-! ## Calls in words -/

namespace Mapping

/-- What the text of a call names before its arguments. -/
def callee (call : MethodCall) (classRef value : String) : String :=
  match call.kind with
  | .onClass => classRef ++ "::" ++ call.method
  | .onValue => value ++ "->" ++ call.method

/-- The arguments in the text of a call. -/
def arguments (call : MethodCall) (value : String) : List String :=
  match call.kind with
  | .onClass => [value]
  | .onValue => []

theorem callText_eq (call : MethodCall) (classRef value : String) :
    callText call classRef value
      = callee call classRef value ++ "(" ++ ", ".intercalate (arguments call value) ++ ")" := by
  unfold callText callee arguments
  cases call.kind with
  | onClass => simp
  | onValue => simp [String.append_assoc]

end Mapping

/-! ## Calls of a mapping -/

/-- The call of a method under its declaration in a class. -/
structure Calls (c : Catalog) (className : String) (call : MethodCall) (d : MethodDecl) : Prop where
  admits : c.Admits className call.method d
  kind : d.kind = call.kind

/-- The text of a call passes what a declaration requires. -/
def Suffices (call : MethodCall) (d : MethodDecl) : Prop :=
  ∀ value, d.requiredParams ≤ (Mapping.arguments call value).length

theorem Calls.suffices_iff {c : Catalog} {className : String} {call : MethodCall} {d : MethodDecl}
    (h : Calls c className call d) :
    Suffices call d ↔ ¬ (d.kind = .onValue ∧ d.requiredParams = 1) := by
  have hrequired := h.admits.required
  unfold Suffices Mapping.arguments
  rw [h.kind]
  cases call.kind with
  | onClass => simpa using hrequired
  | onValue =>
    simp only [List.length_nil, forall_const, true_and]
    omega

namespace Conversions

variable {c : Conversions}

theorem exists_calls_of_checkedCall {className method : String} {call : MethodCall}
    (h : c.checkedCall className method = .ok call) : ∃ d, Calls c.catalog className call d := by
  obtain ⟨d, hd, rfl⟩ := exists_admits_of_checkedCall h
  have hname : d.name = method := hd.declared.name_eq
  exact ⟨d, hname.symm ▸ hd, rfl⟩

end Conversions

namespace Mapper

/-- A mapping that a mapper gives is that of its conversions. -/
theorem resolve_conversions_of_run {catalog : Catalog} {calls : List Call} {type : String}
    {m : Mapping} (h : (((ofCatalog catalog).run calls).resolve type).value.1 = some m) :
    ((ofCatalog catalog).run calls).conversions.resolve (normalizeName type) = .ok (some m) := by
  rw [resolve_value] at h
  split at h
  · cases h
  · rw [look_run] at h
    exact Conversions.resolve_of_granted? h

/-- The texts of a mapping call methods that its class declares or inherits. They pass what these
require exactly where no method of objects requires an argument. -/
theorem arguments_suffice_iff (catalog : Catalog) (calls : List Call) (type : String) {m : Mapping}
    (h : (((ofCatalog catalog).run calls).resolve type).value.1 = some m) :
    (∀ classRef raw, m.fromRawText classRef raw
      = Mapping.callee m.fromRaw classRef raw ++ "("
        ++ ", ".intercalate (Mapping.arguments m.fromRaw raw) ++ ")") ∧
    (∀ classRef value, m.toRawText classRef value
      = Mapping.callee m.toRaw classRef value ++ "("
        ++ ", ".intercalate (Mapping.arguments m.toRaw value) ++ ")") ∧
    ∃ d d', Calls catalog m.className m.fromRaw d ∧ Calls catalog m.className m.toRaw d' ∧
      (Suffices m.fromRaw d ↔ ¬ (d.kind = .onValue ∧ d.requiredParams = 1)) ∧
      (Suffices m.toRaw d' ↔ ¬ (d'.kind = .onValue ∧ d'.requiredParams = 1)) := by
  refine ⟨Mapping.callText_eq m.fromRaw, Mapping.callText_eq m.toRaw, ?_⟩
  obtain ⟨f, -, -, hfrom, hto⟩ :=
    Conversions.exists_family_of_resolve (resolve_conversions_of_run h)
  obtain ⟨d, hd⟩ := Conversions.exists_calls_of_checkedCall hfrom
  obtain ⟨d', hd'⟩ := Conversions.exists_calls_of_checkedCall hto
  rw [catalog_run] at hd hd'
  exact ⟨d, d', hd, hd', hd.suffices_iff, hd'.suffices_iff⟩

/-- The base of enumerations, whose methods pass what they require. -/
theorem enumBase_arguments_suffice :
    ∃ m, (((ofCatalog builtinTypes).run []).resolve enumBase).value.1 = some m ∧
      ∃ d d', Calls builtinTypes m.className m.fromRaw d ∧
        Calls builtinTypes m.className m.toRaw d' ∧ Suffices m.fromRaw d ∧ Suffices m.toRaw d' := by
  have hresolve : (((ofCatalog builtinTypes).run []).resolve enumBase).value.1
      = some ⟨"enum", enumBase, enumBase, ⟨"get", .onClass⟩, ⟨"getValue", .onValue⟩⟩ := by
    decide +kernel
  obtain ⟨-, -, d, d', hd, hd', hfrom, hto⟩ := arguments_suffice_iff builtinTypes [] enumBase hresolve
  refine ⟨_, hresolve, d, d', hd, hd', hfrom.2 fun h => ?_, hto.2 fun h => ?_⟩
  · cases hd.kind.symm.trans h.1
  · have hdeclared : d' = { name := "getValue" } :=
      Option.some.inj ((Catalog.findMethod?_eq_some_iff.2 hd'.admits.declared).symm.trans
        (by decide +kernel))
    rw [hdeclared] at h
    cases h.2

/-- An enumeration whose value is given only for an argument. -/
def slugTypes : Catalog :=
  builtinTypes.registerAll
    [{ name := "App\\Slug", parent := some enumBase,
       methods := [{ name := "getValue", requiredParams := 1 }] }]

/-- It has a mapping, which calls its method without the argument. -/
theorem slugTypes_not_suffices :
    ∃ m d, ((ofCatalog slugTypes).resolve "App\\Slug").value.1 = some m ∧
      Calls slugTypes m.className m.toRaw d ∧ ¬ Suffices m.toRaw d := by
  have hcalls : Calls slugTypes "App\\Slug" ⟨"getValue", .onValue⟩
      { name := "getValue", requiredParams := 1 } :=
    ⟨⟨Catalog.findMethod?_eq_some_iff.1 (by decide +kernel), rfl, Nat.le_refl 1⟩, rfl⟩
  refine ⟨⟨"enum", "App\\Slug", "App\\Slug", ⟨"get", .onClass⟩, ⟨"getValue", .onValue⟩⟩, _,
    by decide +kernel, hcalls, ?_⟩
  rw [hcalls.suffices_iff]
  exact fun h => h ⟨rfl, rfl⟩

end Mapper

end TableClasses.ValueObject
