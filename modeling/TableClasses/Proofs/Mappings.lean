import TableClasses.Proofs.Lineage
import TableClasses.ValueObject.Mapping

/-!
# What becomes of a type

`Resolves` says what a type is resolved to, whatever the graph of its ancestors: nothing, the fault
of the first check that fails, or a mapping. The nearest family counts and the nearest declaration
of each method, the method from a raw value before the one to it, and of each its presence, its
visibility and its parameters in this order.
-/

namespace TableClasses.ValueObject

/-! ## Methods for conversions -/

namespace Catalog

/-- A method that may be called from outside, and with one argument at most. -/
structure Admits (c : Catalog) (className method : String) (d : MethodDecl) : Prop where
  declared : c.Declares className method d
  visible : d.visibility = .pub
  required : d.requiredParams ≤ 1

/-- The fault of the first check that a method fails. -/
inductive Refuses (c : Catalog) (className method : String) : MappingFault → Prop
  | missing : (∀ d, ¬ c.Declares className method d) →
      Refuses c className method (.missingMethod className method)
  | hidden {d : MethodDecl} : c.Declares className method d → d.visibility ≠ .pub →
      Refuses c className method (.notPublic className method)
  | demanding {d : MethodDecl} : c.Declares className method d → d.visibility = .pub →
      1 < d.requiredParams →
      Refuses c className method (.tooManyParameters className method d.requiredParams)

theorem admits_or_refuses (c : Catalog) (className method : String) :
    (∃ d, c.Admits className method d) ∨ ∃ fault, c.Refuses className method fault := by
  cases hfind : c.findMethod? className method with
  | none => exact .inr ⟨_, .missing (findMethod?_eq_none_iff.1 hfind)⟩
  | some d =>
    have hd := findMethod?_eq_some_iff.1 hfind
    by_cases hvisible : d.visibility = .pub
    · by_cases hrequired : d.requiredParams ≤ 1
      · exact .inl ⟨d, hd, hvisible, hrequired⟩
      · exact .inr ⟨_, .demanding hd hvisible (Nat.lt_of_not_le hrequired)⟩
    · exact .inr ⟨_, .hidden hd hvisible⟩

end Catalog

namespace Conversions

variable {c : Conversions} {type className method : String}

theorem checkedCall_of_admits {d : MethodDecl} (h : c.catalog.Admits className method d) :
    c.checkedCall className method = .ok ⟨d.name, d.kind⟩ := by
  unfold checkedCall
  rw [Catalog.findMethod?_eq_some_iff.2 h.declared]
  simp [h.visible, Nat.not_lt.2 h.required]

theorem checkedCall_of_refuses {fault : MappingFault}
    (h : c.catalog.Refuses className method fault) :
    c.checkedCall className method = .error fault := by
  unfold checkedCall
  cases h with
  | missing hnone => rw [Catalog.findMethod?_eq_none_iff.2 hnone]
  | hidden hd hvisible =>
    rw [Catalog.findMethod?_eq_some_iff.2 hd]
    exact if_pos hvisible
  | demanding hd hvisible hrequired =>
    rw [Catalog.findMethod?_eq_some_iff.2 hd]
    simp [hvisible, hrequired]

/-- A call that passes the checks is that of a method that is admitted. -/
theorem exists_admits_of_checkedCall {call : MethodCall}
    (h : c.checkedCall className method = .ok call) :
    ∃ d, c.catalog.Admits className method d ∧ call = ⟨d.name, d.kind⟩ := by
  obtain ⟨d, hd⟩ | ⟨fault, hfault⟩ := c.catalog.admits_or_refuses className method
  · exact ⟨d, hd, (Except.ok.inj ((checkedCall_of_admits hd).symm.trans h)).symm⟩
  · rw [checkedCall_of_refuses hfault] at h
    cases h

/-! ## Types -/

/-- The family of a type: that of the nearest of it and its ancestors that has one. -/
def HasFamily (c : Conversions) (type : String) (f : Family) : Prop :=
  c.catalog.Nearest c.families.get? type f

/-- A known type of a family. -/
structure Eligible (c : Conversions) (type : String) (f : Family) : Prop where
  named : type ≠ ""
  known : type ∈ c.catalog.keys
  family : c.HasFamily type f

/-- What becomes of a type. -/
inductive Resolves (c : Conversions) (type : String) :
    Except MappingFault (Option Mapping) → Prop
  | unnamed : type = "" → Resolves c type (.ok none)
  | unknown : type ∉ c.catalog.keys → Resolves c type (.ok none)
  | noFamily : (∀ f, ¬ c.HasFamily type f) → Resolves c type (.ok none)
  | fromRefused {f : Family} {fault : MappingFault} : c.Eligible type f →
      c.catalog.Refuses (f.className type) f.fromMethod fault → Resolves c type (.error fault)
  | toRefused {f : Family} {d : MethodDecl} {fault : MappingFault} : c.Eligible type f →
      c.catalog.Admits (f.className type) f.fromMethod d →
      c.catalog.Refuses (f.className type) f.toMethod fault → Resolves c type (.error fault)
  | mapped {f : Family} {d d' : MethodDecl} : c.Eligible type f →
      c.catalog.Admits (f.className type) f.fromMethod d →
      c.catalog.Admits (f.className type) f.toMethod d' →
      Resolves c type (.ok (some
        { family := f.name
          className := f.className type
          interfaceName := f.interfaceName type
          fromRaw := ⟨d.name, d.kind⟩
          toRaw := ⟨d'.name, d'.kind⟩ }))

theorem resolve_of_not_isKnown (h : c.isKnown (normalizeName type) = false) :
    c.resolve type = .ok none := by
  unfold resolve
  simp [h]

theorem resolve_of_no_family (h : c.family? (normalizeName type) = none) :
    c.resolve type = .ok none := by
  unfold resolve
  simp [h]

/-- The mapping of a type that has a family. -/
theorem resolve_of_family {f : Family} (hknown : c.isKnown (normalizeName type) = true)
    (hfamily : c.family? (normalizeName type) = some f) :
    c.resolve type = (do
      let fromRaw ← c.checkedCall (f.className (normalizeName type)) f.fromMethod
      let toRaw ← c.checkedCall (f.className (normalizeName type)) f.toMethod
      return some ⟨f.name, f.className (normalizeName type),
        f.interfaceName (normalizeName type), fromRaw, toRaw⟩) := by
  unfold resolve
  simp [hknown, hfamily]

/-- A mapping names the class that a family gives and calls two of its methods. -/
theorem exists_family_of_resolve {m : Mapping} (h : c.resolve type = .ok (some m)) :
    ∃ f, c.family? (normalizeName type) = some f ∧
      m.className = f.className (normalizeName type) ∧
      c.checkedCall m.className f.fromMethod = .ok m.fromRaw ∧
      c.checkedCall m.className f.toMethod = .ok m.toRaw := by
  by_cases hknown : c.isKnown (normalizeName type) = true
  · cases hfamily : c.family? (normalizeName type) with
    | none =>
      rw [resolve_of_no_family hfamily] at h
      cases h
    | some f =>
      rw [resolve_of_family hknown hfamily] at h
      cases hfrom : c.checkedCall (f.className (normalizeName type)) f.fromMethod with
      | error fault => rw [hfrom] at h; cases h
      | ok fromRaw =>
        cases hto : c.checkedCall (f.className (normalizeName type)) f.toMethod with
        | error fault => rw [hfrom, hto] at h; cases h
        | ok toRaw =>
          rw [hfrom, hto] at h
          obtain rfl := Option.some.inj (Except.ok.inj h)
          exact ⟨f, rfl, rfl, hfrom, hto⟩
  · rw [resolve_of_not_isKnown (Bool.not_eq_true _ ▸ hknown)] at h
    cases h

section
variable (hnormal : normalizeName type = type)
include hnormal

theorem isKnown_iff : c.isKnown type = true ↔ type ≠ "" ∧ type ∈ c.catalog.keys := by
  unfold isKnown Catalog.contains
  rw [hnormal, hnormal, Bool.and_eq_true, bne_iff_ne, Entries.has_iff]

theorem family?_eq_some_iff {f : Family} : c.family? type = some f ↔ c.HasFamily type f := by
  unfold family? HasFamily
  rw [Catalog.findSome?_lineage_iff, hnormal]

theorem family?_eq_none_iff : c.family? type = none ↔ ∀ f, ¬ c.HasFamily type f := by
  simp only [← family?_eq_some_iff hnormal, Option.eq_none_iff_forall_ne_some, ne_eq]

theorem Eligible.resolve {f : Family} (h : c.Eligible type f) :
    c.resolve type = (do
      let fromRaw ← c.checkedCall (f.className type) f.fromMethod
      let toRaw ← c.checkedCall (f.className type) f.toMethod
      return some ⟨f.name, f.className type, f.interfaceName type, fromRaw, toRaw⟩) := by
  have hknown : c.isKnown (normalizeName type) = true := by
    rw [hnormal]
    exact (isKnown_iff hnormal).2 ⟨h.named, h.known⟩
  have hfamily : c.family? (normalizeName type) = some f := by
    rw [hnormal]
    exact (family?_eq_some_iff hnormal).2 h.family
  have hresolve := resolve_of_family hknown hfamily
  rwa [hnormal] at hresolve

theorem Resolves.resolve_eq {r : Except MappingFault (Option Mapping)} (h : c.Resolves type r) :
    c.resolve type = r := by
  cases h with
  | unnamed hnamed =>
    refine resolve_of_not_isKnown ?_
    rw [hnormal, Bool.eq_false_iff, ne_eq, isKnown_iff hnormal]
    exact fun h => h.1 hnamed
  | unknown hknown =>
    refine resolve_of_not_isKnown ?_
    rw [hnormal, Bool.eq_false_iff, ne_eq, isKnown_iff hnormal]
    exact fun h => hknown h.2
  | noFamily hnone =>
    refine resolve_of_no_family ?_
    rw [hnormal]
    exact (family?_eq_none_iff hnormal).2 hnone
  | fromRefused h hfault =>
    rw [h.resolve hnormal, checkedCall_of_refuses hfault]
    rfl
  | toRefused h hd hfault =>
    rw [h.resolve hnormal, checkedCall_of_admits hd, checkedCall_of_refuses hfault]
    rfl
  | mapped h hd hd' =>
    rw [h.resolve hnormal, checkedCall_of_admits hd, checkedCall_of_admits hd']
    rfl

/-- Something becomes of every type. -/
theorem exists_resolves (c : Conversions) : ∃ r, c.Resolves type r := by
  by_cases hnamed : type = ""
  · exact ⟨_, .unnamed hnamed⟩
  by_cases hknown : type ∈ c.catalog.keys
  · cases hfamily : c.family? type with
    | none => exact ⟨_, .noFamily ((family?_eq_none_iff hnormal).1 hfamily)⟩
    | some f =>
      have h : c.Eligible type f := ⟨hnamed, hknown, (family?_eq_some_iff hnormal).1 hfamily⟩
      obtain ⟨d, hd⟩ | ⟨_, hfault⟩ := c.catalog.admits_or_refuses (f.className type) f.fromMethod
      · obtain ⟨d', hd'⟩ | ⟨_, hfault⟩ := c.catalog.admits_or_refuses (f.className type) f.toMethod
        · exact ⟨_, .mapped h hd hd'⟩
        · exact ⟨_, .toRefused h hd hfault⟩
      · exact ⟨_, .fromRefused h hfault⟩
  · exact ⟨_, .unknown hknown⟩

/-- A type is resolved to what becomes of it, over every graph of types and with all families. -/
theorem resolve_eq_iff_resolves (r : Except MappingFault (Option Mapping)) :
    c.resolve type = r ↔ c.Resolves type r := by
  constructor
  · rintro rfl
    obtain ⟨r, hr⟩ := exists_resolves hnormal c
    rwa [hr.resolve_eq hnormal]
  · exact Resolves.resolve_eq hnormal

end

/-- Types in a cycle: two inherit from the base of enumerations, which inherits from one of them. -/
def cyclicTypes : Conversions :=
  .ofCatalog (builtinTypes.registerAll
    [{ name := "App\\Status", parent := some "App\\Flags",
       methods := [{ name := "label", requiredParams := 2 }] },
     { name := "App\\Flags", parent := some enumBase,
       methods := [{ name := "get", kind := .onClass }] },
     { name := enumBase, parent := some "App\\Status",
       methods := [{ name := "get", visibility := .priv }, { name := "getValue" }] }])

/-- The nearer declaration of a method hides the private one above it. -/
theorem cyclicTypes_resolves :
    normalizeName "App\\Status" = "App\\Status" ∧
      cyclicTypes.Resolves "App\\Status" (.ok (some
        { family := "enum", className := "App\\Status", interfaceName := "App\\Status"
          fromRaw := ⟨"get", .onClass⟩, toRaw := ⟨"getValue", .onValue⟩ })) := by
  have hnormal : normalizeName "App\\Status" = "App\\Status" := by decide +kernel
  exact ⟨hnormal, (resolve_eq_iff_resolves hnormal _).1 (by decide +kernel)⟩

end Conversions

end TableClasses.ValueObject
