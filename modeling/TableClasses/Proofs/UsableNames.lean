import TableClasses.Proofs.Accounts
import TableClasses.Proofs.Alignment
import TableClasses.Proofs.Labels
import TableClasses.Proofs.Segments

/-!
# Usable names

`Usable` gathers the names that a table gives to its classes and asks whether the language takes
them. `usable_iff` says which tables give usable ones, and not every document does.
-/

namespace TableClasses.Classes

open TableClasses.Text TableClasses.Naming TableClasses.Code

/-- Names that the language takes: those of the classes of a table, of the segments that its
namespaces have behind the base one, of the members of its columns, and of parameters. -/
structure Usable (r : Rendering) (t : Table) : Prop where
  classNames : ∀ k, isLabel (build r k t).value.declared.name = true
  segments : ∀ k, ∀ s ∈ (segmentsOf (build r k t).value.imports.name).drop
    (segmentsOf r.baseNamespace).length, isLabel s = true
  members : ∀ c ∈ t.columns,
    isLabel c.field = true ∧ isLabel c.getter = true ∧ isLabel c.setter = true
  parameters : ∀ m ∈ (build r .data t).value.declared.methods, ∀ p ∈ m.params, p.name ≠ "this"

theorem isLabel_suffix (k : Kind) : isLabel k.suffix = true := by
  cases k <;> decide

theorem isLabel_segment (k : Kind) : isLabel k.segment = true := by
  cases k <;> decide

/-- The segments of a namespace behind those of the base one. -/
theorem drop_segmentsOf_name (r : Rendering) (k : Kind) (t : Table) :
    (segmentsOf (build r k t).value.imports.name).drop (segmentsOf r.baseNamespace).length
      = segmentsOf (pascal t.name) ++ [k.segment] := by
  have htrimmed : trimBackslashes ((Names.ofTable r.baseNamespace t.name).namespaceOf k)
      = (Names.ofTable r.baseNamespace t.name).namespaceOf k := trimmed_joinNames _
  rw [(declared_build r k t).1, htrimmed, segmentsOf_namespaceOf, List.append_assoc, List.drop_left]

/-! ## Parameters -/

/-- Getters have no parameter, and each setter has that of its property. -/
theorem param_names_accessors (o : Outline) :
    (o.accessors.flatMap (·.params)).map (·.name) = o.properties.map (·.name) := by
  have hgetters : (o.readWrite.map fun m => getter m.column m.type).flatMap (·.params) = [] := by
    rw [List.flatMap_map]
    exact List.flatMap_eq_nil_iff.2 fun _ _ => rfl
  unfold Outline.accessors Outline.properties
  rw [List.flatMap_append, hgetters, List.nil_append, List.flatMap_assoc, List.map_flatMap,
    List.map_map, List.map_eq_flatMap]
  rfl

theorem param_names_methods (t : Table) (n : Names) (r : Rendering) :
    ((dataOutline t n r).1.methods.flatMap (·.params)).map (·.name)
      = t.readWrite.map Column.field ++ ["data", "row"] ++ t.readOnly.map Column.field := by
  have hproperties : (dataOutline t n r).1.properties.map (·.name)
      = t.readOnly.map Column.field := by
    have hnames := congrArg (List.map Prod.fst) (properties_of_built (built_columns t n r))
    rwa [List.map_map, List.map_map] at hnames
  rw [Outline.methods_eq, List.flatMap_append, List.map_append, param_names_accessors, hproperties,
    ← param_names_dataOutline t n r]
  simp [Outline.fromArray, Outline.fromRow, Outline.toArray, Outline.toDatabaseArray]

/-- The parameters of a data class are its fields and two arrays. -/
theorem parameters_ne_this_iff (r : Rendering) (t : Table) :
    (∀ m ∈ (build r .data t).value.declared.methods, ∀ p ∈ m.params, p.name ≠ "this") ↔
      ∀ c ∈ t.columns, c.field ≠ "this" := by
  have hmethods : (build r .data t).value.declared.methods
      = (dataOutline t (Names.ofTable r.baseNamespace t.name) r).1.methods := by
    rw [build, dataFile_value]
    rfl
  have hnames : ∀ ms : List Method, (∀ m ∈ ms, ∀ p ∈ m.params, p.name ≠ "this") ↔
      "this" ∉ (ms.flatMap (·.params)).map (·.name) := by
    intro ms
    simp only [List.mem_map, List.mem_flatMap, not_exists, not_and]
    constructor
    · intro h p hp
      obtain ⟨m, hm, hp⟩ := hp
      exact h m hm p hp
    · intro h m hm p hp
      exact h p ⟨m, hm, hp⟩
  have hcolumns : (∀ c ∈ t.columns, c.field ≠ "this") ↔
      ∀ c ∈ t.readWrite ++ t.readOnly, c.field ≠ "this" :=
    forall_congr' fun c => imp_congr_left (readWrite_append_readOnly_perm t).mem_iff.symm
  rw [hmethods, hnames, param_names_methods, hcolumns, List.forall_mem_append]
  simp

/-! ## Usable tables -/

theorem isLabel_segmentsOf_pascal_iff (table : String) :
    (∀ s ∈ segmentsOf (pascal table), isLabel s = true) ↔
      (pascal table ≠ "" → ∀ c ∈ initial? table, c.isDigit = false) := by
  rw [segmentsOf_pascal]
  by_cases hne : pascal table = ""
  · simp [hne]
  · rw [if_neg hne, List.forall_mem_singleton, isLabel_pascal_iff hne]
    exact ⟨fun h _ => h, fun h => h hne⟩

/-- A table gives usable names only if its name and those of its columns do not begin with a digit,
which takes a letter or number in each column, and no column is spelt like the object itself. -/
theorem usable_iff (r : Rendering) (t : Table) :
    Usable r t ↔
      (∀ c ∈ initial? t.name, c.isDigit = false) ∧
        ∀ c ∈ t.columns, (∃ i ∈ initial? c.name, i.isDigit = false) ∧
          camel c.name ≠ "this" := by
  have hclass : ∀ k, isLabel (build r k t).value.declared.name = true ↔
      ∀ c ∈ initial? t.name, c.isDigit = false := by
    intro k
    rw [(declared_build r k t).2, className_ofTable]
    exact isLabel_pascal_append_iff (isLabel_suffix k)
  have hget : isLabel "get" = true := by decide
  have hset : isLabel "set" = true := by decide
  constructor
  · intro h
    refine ⟨(hclass .data).1 (h.classNames .data), fun c hc => ⟨?_, ?_⟩⟩
    · exact isLabel_camel_iff.1 (h.members c hc).1
    · exact (parameters_ne_this_iff r t).1 h.parameters c hc
  · rintro ⟨htable, hcolumns⟩
    exact
      { classNames := fun k => (hclass k).2 htable
        segments := fun k => by
          rw [drop_segmentsOf_name, List.forall_mem_append, List.forall_mem_singleton]
          exact ⟨(isLabel_segmentsOf_pascal_iff t.name).2 fun _ => htable, isLabel_segment k⟩
        members := fun c hc => ⟨isLabel_camel_iff.2 (hcolumns c hc).1,
          isLabel_append_pascal hget c.name, isLabel_append_pascal hset c.name⟩
        parameters := (parameters_ne_this_iff r t).2 fun c hc => (hcolumns c hc).2 }

theorem usable_shipments : Usable {} shipments := by
  refine (usable_iff {} shipments).2 ⟨?_, ?_⟩
  · have hinitial : initial? shipments.name = some 's' := by decide
    rw [hinitial]
    rintro _ ⟨rfl⟩
    decide
  · simp only [shipments, List.forall_mem_cons]
    refine ⟨?_, ?_, ?_, ?_, List.forall_mem_nil _⟩
    · exact ⟨⟨'c', by decide, by decide⟩, by decide +kernel⟩
    · exact ⟨⟨'o', by decide, by decide⟩, by decide +kernel⟩
    · exact ⟨⟨'c', by decide, by decide⟩, by decide +kernel⟩
    · exact ⟨⟨'l', by decide, by decide⟩, by decide +kernel⟩

/-- A document with a column that begins with a digit, and the table that it gives. -/
def digitDocument : Json :=
  .object [("users", .object
    [("columns", .object [("2fa", .object [("DATA_TYPE", .string "int")])])])]

def digitTable : Table := ⟨"users", [{ name := "2fa", scalar := .int }], none⟩

/-- The table is given without a warning, and the field of its column is no name. -/
theorem digitDocument_unusable :
    ((Schema.normalize none (.ofCatalog []) digitDocument).map fun w =>
        (w.value.1, w.warnings.length)) = .ok ([digitTable], 0) ∧
      ¬ Usable {} digitTable := by
  refine ⟨by decide +kernel, fun h => ?_⟩
  have hfield := (h.members { name := "2fa", scalar := .int } List.mem_cons_self).1
  revert hfield
  decide +kernel

end TableClasses.Classes
