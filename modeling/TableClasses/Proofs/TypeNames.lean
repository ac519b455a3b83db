import TableClasses.Proofs.Histories
import TableClasses.Proofs.Mappings
import TableClasses.Proofs.Segments

/-!
# Spellings of type names

The catalog normalizes a name once, and what asks the catalog has normalized it before. That makes
no difference to a name whose normal form is its own, which is every name but those with a blank
after their leading backslashes. For these the blank comes off only the second time, so that a type
may be known that is not contained, and is resolved otherwise by a mapper than by its conversions.
-/

namespace TableClasses.ValueObject

open TableClasses.Text

/-! ## Normalizing twice -/

/-- No blank follows the leading backslashes of a name. -/
def Settled (name : String) : Prop := ∀ ch ∈ (normalizeName name).toList.head?, isBlank ch = false

theorem toList_normalizeName (name : String) :
    (normalizeName name).toList = trimStart isBackslash (trim isBlank name.toList) :=
  toList_onChars _ name

theorem trimEnd_of_suffix {α : Type} {p : α → Bool} {s t : List α} (h : trimEnd p s = s)
    (hsuffix : t <:+ s) : trimEnd p t = t := by
  obtain ⟨u, rfl⟩ := hsuffix
  cases hreverse : t.reverse with
  | nil =>
    rw [List.reverse_eq_nil_iff.1 hreverse]
    rfl
  | cons c rest =>
    have hstart : trimStart p (u ++ t).reverse = c :: (rest ++ u.reverse) := by
      rw [← List.cons_append, ← hreverse, ← List.reverse_append]
      exact List.reverse_injective (by rwa [List.reverse_reverse])
    have hc : ¬ p c = true := by simp [not_of_head_trimStart p hstart]
    unfold trimEnd
    rw [hreverse, List.dropWhile_cons_of_neg hc, ← hreverse, List.reverse_reverse]

section
variable {α : Type} (p : α → Bool) (s : List α)

theorem length_trimStart_le : (trimStart p s).length ≤ s.length :=
  (List.dropWhile_suffix p).length_le

theorem length_trim_le : (trim p s).length ≤ s.length :=
  Nat.le_trans (trimEnd_isBeginning p _).length_le (length_trimStart_le p s)

end

theorem normalizeName_normalizeName_iff (name : String) :
    normalizeName (normalizeName name) = normalizeName name ↔ Settled name := by
  rw [← String.toList_inj, toList_normalizeName (normalizeName name)]
  unfold Settled
  have hend : trimEnd isBlank (normalizeName name).toList = (normalizeName name).toList := by
    rw [toList_normalizeName]
    exact trimEnd_of_suffix (trimEnd_trim _) (List.dropWhile_suffix _)
  have hslash : trimStart isBackslash (normalizeName name).toList = (normalizeName name).toList := by
    rw [toList_normalizeName, trimStart_trimStart]
  generalize (normalizeName name).toList = s at hend hslash ⊢
  cases s with
  | nil => simp [trim]
  | cons c rest =>
    rw [List.head?_cons]
    simp only [Option.mem_some_iff, forall_eq']
    cases hc : isBlank c with
    | false =>
      have hstart : trimStart isBlank (c :: rest) = c :: rest :=
        List.dropWhile_cons_of_neg (by simp [hc])
      simp only [trim, hstart, hend, hslash]
    | true =>
      -- the second time at least this blank comes off, so the name cannot stay as long as it is
      have hfront : trim isBlank (c :: rest) = trim isBlank rest := by
        unfold trim trimStart
        rw [List.dropWhile_cons_of_pos hc]
      have hshorter : (trimStart isBackslash (trim isBlank rest)).length ≤ rest.length :=
        Nat.le_trans (length_trimStart_le _ _) (length_trim_le _ _)
      simp only [Bool.true_eq_false, iff_false, hfront]
      intro heq
      rw [heq, List.length_cons] at hshorter
      omega

/-! ## Known and contained -/

theorem isKnown_eq (c : Conversions) (name : String) :
    c.isKnown name
      = (normalizeName name != "" && c.catalog.has (normalizeName (normalizeName name))) := rfl

theorem contains_eq (c : Catalog) (name : String) : c.contains name = c.has (normalizeName name) :=
  rfl

theorem Settled.isKnown_iff {name : String} (h : Settled name) (c : Conversions) :
    c.isKnown name = true ↔ c.catalog.contains name = true ∧ normalizeName name ≠ "" := by
  rw [isKnown_eq, contains_eq, (normalizeName_normalizeName_iff name).2 h, Bool.and_eq_true,
    bne_iff_ne, and_comm]

/-- The catalog of one type, registered under a name that is not settled. -/
theorem isKnown_of_not_settled {name : String} (h : ¬ Settled name) (families : Entries Family) :
    Conversions.isKnown ⟨Catalog.registerAll [] [{ name := normalizeName name }], families⟩ name
        = true ∧
      Catalog.contains (Catalog.registerAll [] [{ name := normalizeName name }]) name = false := by
  rw [← normalizeName_normalizeName_iff] at h
  have hnamed : normalizeName name ≠ "" := fun hempty => h (by rw [hempty]; rfl)
  have hcatalog : Catalog.registerAll [] [{ name := normalizeName name }]
      = [(normalizeName (normalizeName name), { name := normalizeName (normalizeName name) })] := rfl
  rw [isKnown_eq, contains_eq, hcatalog]
  constructor
  · simp [hnamed, Entries.has, Entries.get?]
  · simp [h, Entries.has, Entries.get?]

/-! ## Resolved and tried -/

theorem granted?_congr (c : Conversions) {name other : String}
    (h : normalizeName name = normalizeName other) : c.granted? name = c.granted? other := by
  unfold Conversions.granted? Conversions.resolve
  rw [h]

theorem granted?_of_unnamed (c : Conversions) {name : String}
    (h : normalizeName (normalizeName name) = "") : c.granted? name = none := by
  have hknown : c.isKnown (normalizeName name) = false := by rw [isKnown_eq, h]; rfl
  unfold Conversions.granted?
  rw [Conversions.resolve_of_not_isKnown hknown]

/-- A known type whose family has both methods is mapped to the class that the family gives. -/
theorem exists_granted? {c : Conversions} {name : String} {f : Family} {d d' : MethodDecl}
    (hknown : c.isKnown (normalizeName name) = true)
    (hfamily : c.family? (normalizeName name) = some f)
    (hfrom : c.catalog.Admits (f.className (normalizeName name)) f.fromMethod d)
    (hto : c.catalog.Admits (f.className (normalizeName name)) f.toMethod d') :
    ∃ m, c.granted? name = some m ∧ m.className = f.className (normalizeName name) := by
  unfold Conversions.granted?
  rw [Conversions.resolve_of_family hknown hfamily, Conversions.checkedCall_of_admits hfrom,
    Conversions.checkedCall_of_admits hto]
  exact ⟨_, rfl, rfl⟩

/-- A mapper that has not resolved anything resolves a name as its conversions do what is left of
the name. -/
theorem resolve_build (catalog : Catalog) (families : List (String × Family)) (name : String) :
    ((Mapper.build catalog families).resolve name).value.1
      = (Mapper.build catalog families).conversions.granted? (normalizeName name) := by
  rw [Mapper.resolve_value, Mapper.look_build]
  split
  · next h =>
    rw [granted?_of_unnamed _ (by rw [h]; rfl)]
  · rfl

theorem get?_families_register_self (c : Conversions) (type : String) (f : Family) :
    (c.register type f).families.get? (normalizeName type) = some f :=
  Entries.get?_put_self c.families (normalizeName type) f

theorem get?_families_register_of_ne (c : Conversions) {type other : String} (f : Family)
    (h : normalizeName type ≠ other) :
    (c.register type f).families.get? other = c.families.get? other :=
  Entries.get?_put_of_ne c.families f h

/-- A type with the methods of the enumeration family, whatever it inherits from. -/
def enumDecl (name : String) : TypeDecl :=
  { name, methods := [{ name := "get", kind := .onClass }, { name := "getValue" }] }

/-- The catalog of a type with the methods of enumerations and of what is left of its name. -/
def enumTypes (name : String) : Catalog :=
  Catalog.registerAll [] [enumDecl name, enumDecl (normalizeName name)]

/-- Conversions that have the enumeration family for one of these types. -/
def enumConversions (name : String) : Conversions :=
  (Conversions.ofCatalog (enumTypes name)).register name .enum

theorem enumTypes_eq (name : String) :
    enumTypes name
      = (Catalog.register [] (enumDecl name)).register (enumDecl (normalizeName name)) := by
  unfold enumTypes Catalog.registerAll
  rw [List.foldl_cons, List.foldl_cons, List.foldl_nil]

/-- The type has its methods, also where what is left of its name is the name itself. -/
theorem get?_enumTypes (name : String) :
    ∃ d, (enumTypes name).get? (normalizeName name) = some d ∧
      d.methods = (enumDecl name).methods := by
  have hfirst : normalizeName (enumDecl name).name = normalizeName name := rfl
  have hlast : normalizeName (enumDecl (normalizeName name)).name
      = normalizeName (normalizeName name) := rfl
  rw [enumTypes_eq]
  by_cases h : normalizeName (normalizeName name) = normalizeName name
  · exact ⟨_, Catalog.get?_register_self _ (hlast.trans h), rfl⟩
  · rw [Catalog.get?_register_of_ne _ (hlast.trans_ne h), Catalog.get?_register_self _ hfirst]
    exact ⟨_, rfl, rfl⟩

theorem has_enumTypes (name : String) :
    (enumTypes name).has (normalizeName (normalizeName name)) = true := by
  have hlast : normalizeName (enumDecl (normalizeName name)).name
      = normalizeName (normalizeName name) := rfl
  unfold Entries.has
  rw [enumTypes_eq, Catalog.get?_register_self _ hlast]
  rfl

theorem admits_enumTypes (name : String) {d : MethodDecl} (hd : d ∈ (enumDecl name).methods) :
    (enumTypes name).Admits name d.name d := by
  obtain ⟨decl, hdecl, hmethods⟩ := get?_enumTypes name
  have hdeclared : (enumTypes name).declared? d.name (normalizeName name)
      = (enumDecl name).methods.find? (·.name == d.name) := by
    rw [Catalog.declared?, hdecl, Option.bind_some, hmethods]
  simp only [enumDecl, List.mem_cons, List.not_mem_nil, or_false] at hd
  obtain rfl | rfl := hd
  · exact ⟨.here hdeclared, rfl, Nat.zero_le 1⟩
  · exact ⟨.here hdeclared, rfl, Nat.zero_le 1⟩

theorem catalog_enumConversions (name : String) :
    (enumConversions name).catalog = enumTypes name := by
  simp only [enumConversions, Conversions.register, Conversions.ofCatalog]

theorem family?_enumConversions (name : String) :
    (enumConversions name).family? name = some .enum := by
  unfold Conversions.family?
  rw [Catalog.findSome?_lineage_iff]
  exact .here (get?_families_register_self _ name .enum)

theorem family_of_enumConversions {name type : String} {f : Family}
    (h : (enumConversions name).families.get? type = some f) : f = .uuid ∨ f = .enum := by
  unfold enumConversions at h
  by_cases htype : normalizeName name = type
  · subst htype
    rw [get?_families_register_self] at h
    exact .inr (Option.some.inj h).symm
  · rw [get?_families_register_of_ne _ _ htype, Conversions.ofCatalog] at h
    simp only [Entries.get?] at h
    split_ifs at h
    · exact .inl (Option.some.inj h).symm
    · exact .inl (Option.some.inj h).symm
    · exact .inr (Option.some.inj h).symm

/-- Under its full spelling the type is mapped to itself. -/
theorem exists_granted?_enum {name : String} (h : normalizeName (normalizeName name) ≠ "") :
    ∃ m, (enumConversions (normalizeName name)).granted? name = some m ∧
      m.className = normalizeName name := by
  have hknown : (enumConversions (normalizeName name)).isKnown (normalizeName name) = true := by
    rw [isKnown_eq, catalog_enumConversions, Bool.and_eq_true, bne_iff_ne]
    exact ⟨h, has_enumTypes _⟩
  have hfrom := admits_enumTypes (normalizeName name) List.mem_cons_self
  have hto := admits_enumTypes (normalizeName name) (List.mem_cons_of_mem _ List.mem_cons_self)
  rw [← catalog_enumConversions] at hfrom hto
  exact exists_granted? hknown (family?_enumConversions _) hfrom hto

theorem Family.className_uuid (type : String) : Family.uuid.className type = uuidClass := rfl

theorem Family.className_enum (type : String) : Family.enum.className type = type := rfl

/-- With what is left of the name a mapping is found for another class, if any. -/
theorem className_of_granted?_enum {name : String} {m : Mapping} (hsettled : ¬ Settled name)
    (h : (enumConversions (normalizeName name)).granted? (normalizeName name) = some m) :
    m.className ≠ normalizeName name := by
  have hresolve := Conversions.resolve_of_granted? h
  obtain ⟨f, hfamily, hclass, -⟩ := Conversions.exists_family_of_resolve hresolve
  obtain ⟨type, -, hfind⟩ := List.exists_of_findSome?_eq_some hfamily
  rw [← normalizeName_normalizeName_iff] at hsettled
  rw [hclass]
  obtain rfl | rfl := family_of_enumConversions hfind
  · rw [Family.className_uuid]
    intro huuid
    have hfixed : normalizeName uuidClass = uuidClass := by decide +kernel
    rw [huuid] at hfixed
    exact hsettled hfixed
  · rw [Family.className_enum]
    exact hsettled

/-- The lookups agree on a name, over all catalogs and families, exactly where it is settled; where
nothing is left of the name but blanks and backslashes, it is at least resolved alike. -/
theorem spellings_agree_iff (name : String) :
    ((∀ types families,
        ((Mapper.build (Catalog.registerAll [] types) families).isKnown name = true ↔
          Catalog.contains (Catalog.registerAll [] types) name = true ∧ normalizeName name ≠ "")) ↔
      Settled name) ∧
    ((∀ types families,
        ((Mapper.build (Catalog.registerAll [] types) families).resolve name).value.1
          = (Mapper.build (Catalog.registerAll [] types) families).conversions.granted? name) ↔
      Settled name ∨ normalizeName (normalizeName name) = "") := by
  refine ⟨⟨fun h => ?_, fun h types families => ?_⟩, ⟨fun h => ?_, fun h types families => ?_⟩⟩
  · by_contra hsettled
    obtain ⟨hknown, hcontains⟩ := isKnown_of_not_settled hsettled (Conversions.ofCatalog []).families
    have := ((h [{ name := normalizeName name }] []).1 hknown).1
    rw [hcontains] at this
    cases this
  · have hknown := h.isKnown_iff (Mapper.build (Catalog.registerAll [] types) families).conversions
    rwa [Mapper.catalog_build] at hknown
  -- the family is registered for the name with its blank, which resolving a name drops again
  · by_contra hneither
    obtain ⟨hsettled, hleft⟩ := not_or.1 hneither
    have hsame := h [enumDecl (normalizeName name), enumDecl (normalizeName (normalizeName name))]
      [(normalizeName name, .enum)]
    rw [resolve_build] at hsame
    obtain ⟨m, hm, hclass⟩ := exists_granted?_enum hleft
    exact className_of_granted?_enum hsettled (hsame.trans hm) hclass
  · rw [resolve_build]
    obtain hsettled | hleft := h
    · exact granted?_congr _ ((normalizeName_normalizeName_iff name).2 hsettled)
    · rw [granted?_of_unnamed _ hleft, granted?_of_unnamed _ (by rw [hleft]; rfl)]

/-- A mapper with an enumeration. -/
def statusMapper : Mapper :=
  .ofCatalog (builtinTypes.registerAll [{ name := "App\\Status", parent := some enumBase }])

/-- With a blank after the leading backslash the enumeration is known but not contained, and the
mapper maps it to another class than its conversions do. -/
theorem statusMapper_disagrees :
    statusMapper.isKnown "\\ App\\Status" = true ∧
      statusMapper.conversions.catalog.contains "\\ App\\Status" = false ∧
      (statusMapper.resolve "\\ App\\Status").value.1.map (·.className) = some "App\\Status" ∧
      (statusMapper.conversions.granted? "\\ App\\Status").map (·.className)
        = some " App\\Status" := by
  decide +kernel

end TableClasses.ValueObject
