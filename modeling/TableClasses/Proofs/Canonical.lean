import TableClasses.Proofs.Drafts

/-!
# Canonical tables

Classes are rendered from tables without further checks. `Canonical` is what they rely on: names and
fields of the columns differ, the key is one of them, and default, type and category of each column
go together. The table of every draft is canonical, and no other tables leave a document of either
shape, whatever the options and the mapper are.
-/

namespace TableClasses.Schema

open TableClasses.Text TableClasses.Naming TableClasses.ValueObject

/-- A column as it may be made of a source. -/
structure CanonicalColumn (m : Mapper) (s : Source) (c : Column) : Prop where
  name : c.name = s.name
  default : c.valueObject.isSome ∨ c.scalar = .json ∨ c.scalar = .datetime → c.default = none
  mappedType : ∀ mapping, c.valueObject = some mapping → c.publicType = mapping.interfaceName
  plainType : c.valueObject = none → c.publicType = c.scalar.signatureType
  known : m.isKnown s.dataType → c.scalar = .string

/-- A table as it may be made of a draft. -/
structure Canonical (m : Mapper) (d : Draft) (t : Table) : Prop where
  name : t.name = d.name
  nonempty : t.columns ≠ []
  names : (t.columns.map (·.name)).Nodup
  fields : (t.columns.map fun c => lowerText (camel c.name)).Nodup
  key : ∀ key, t.primaryKey = some key → (t.columns.filter (·.name == key)).length = 1
  columns : List.Forall₂ (CanonicalColumn m) d.sources t.columns

/-! ## Columns -/

theorem Scalar.hasLiterals_eq_false {scalar : Scalar} :
    scalar.hasLiterals = false ↔ scalar = .json ∨ scalar = .datetime := by
  cases scalar <;> decide

theorem canonicalColumn_column (m : Mapper) (o : Options) (s : Source) :
    CanonicalColumn m s (s.column m o) where
  name := rfl
  default h := by
    rw [Source.column_valueObject, Source.column_scalar, ← Scalar.hasLiterals_eq_false] at h
    have hdropped : (s.mapping? m o).isSome || !(category m s.dataType).hasLiterals := by
      rcases h with hmapped | hliterals
      · rw [hmapped, Bool.true_or]
      · rw [hliterals, Bool.not_false, Bool.or_true]
    rw [Source.column_default, if_pos hdropped]
  mappedType mapping h := by
    unfold Column.publicType
    rw [h]
  plainType h := by
    unfold Column.publicType
    rw [h]
  known h := by
    rw [Source.column_scalar, category, if_pos h]

/-! ## Tables -/

theorem length_filter_name {columns : List Column} (h : (columns.map (·.name)).Nodup) {c : Column}
    (hc : c ∈ columns) : (columns.filter (·.name == c.name)).length = 1 := by
  have hcount : (columns.map (·.name)).count c.name = 1 :=
    List.count_eq_one_of_mem h (List.mem_map_of_mem hc)
  rw [← hcount, List.count, List.countP_map, List.countP_eq_length_filter]
  rfl

theorem canonical_of_table? {overlay : Option Overlay} {m : Mapper} {d : Draft} {t : Table}
    (h : d.table? overlay m = some t) : Canonical m d t := by
  unfold Draft.table? at h
  split at h
  · cases h
  · next hsources =>
    have hmake : Table.make d.name (d.columns overlay m) d.key = .ok t := by
      cases hmake : Table.make d.name (d.columns overlay m) d.key with
      | error fault => rw [hmake] at h; cases h
      | ok t' => rw [hmake] at h; exact congrArg Except.ok (Option.some.inj h)
    have hnames := Table.nodup_names hmake
    obtain ⟨hfields, hkey, rfl⟩ := Table.make_eq_ok_iff.1 hmake
    refine ⟨rfl, ?_, hnames, hfields, fun key hk => ?_, ?_⟩
    · intro hnil
      exact hsources (List.isEmpty_iff.2 (List.map_eq_nil_iff.1 hnil))
    · obtain ⟨c, hc, rfl⟩ := hkey key hk
      exact length_filter_name hnames hc
    · exact List.forall₂_map_right_iff.2
        (List.forall₂_same.2 fun s _ => canonicalColumn_column m _ s)

/-- Every table that a document gives is made of what the document says of that table, and it is
canonical. -/
theorem canonical_of_normalize {overlay : Option Overlay} {m : Mapper} {doc : Json}
    {w : Warned (List Table × Mapper)} (h : normalize overlay m doc = .ok w) :
    ∃ plan, planOf doc = .ok plan ∧ ∀ t ∈ w.value.1, ∃ d ∈ plan.drafts, Canonical m d t := by
  have hvalue := normalize_value overlay m doc
  rw [h] at hvalue
  cases hplan : planOf doc with
  | error fault => rw [hplan] at hvalue; cases hvalue
  | ok plan =>
    rw [hplan] at hvalue
    have htables : w.value.1 = plan.drafts.filterMap (Draft.table? overlay m) :=
      Except.ok.inj hvalue
    refine ⟨plan, rfl, fun t ht => ?_⟩
    rw [htables] at ht
    obtain ⟨d, hd, htable⟩ := List.mem_filterMap.1 ht
    exact ⟨d, hd, canonical_of_table? htable⟩

/-- A grouped document with defaults that cannot stay, a data type that is known and a type
class. -/
def staffDocument : Json :=
  .object
    [("databaseTable", .string "staff"), ("databaseTableId", .string " id "),
     ("databaseCols", .object
       [("ro", .object
          [("hired_at", .object [("type", .string "datetime"), ("default", .string "now")])]),
        ("rw", .object
          [("id", .object
             [("type", .string "Ramsey\\Uuid\\UuidInterface"), ("default", .string "x")]),
           ("level", .object [("type", .string "int"), ("default", .string "3")]),
           ("mood", .object
             [("type", .string "int"), ("default", .string "1"),
              ("comment", .string "\\Consistence\\Enum\\Enum")])])])]

theorem canonical_staffDocument :
    ∃ w, normalize none (.ofCatalog builtinTypes) staffDocument = .ok w ∧
      w.value.1.map (fun t => (t.name, t.primaryKey)) = [("staff", some "id")] ∧
      w.value.1.flatMap
          (fun t => t.columns.map fun c => (c.name, c.scalar, c.default, c.publicType))
        = [("hired_at", .datetime, none, "\\DateTimeInterface"),
           ("id", .string, none, "Ramsey\\Uuid\\UuidInterface"), ("level", .int, some "3", "int"),
           ("mood", .int, none, "Consistence\\Enum\\Enum")] ∧
      ∃ plan, planOf staffDocument = .ok plan ∧
        ∀ t ∈ w.value.1, ∃ d ∈ plan.drafts, Canonical (.ofCatalog builtinTypes) d t := by
  have hrun := (normalize_eq none (.ofCatalog builtinTypes) staffDocument).trans rfl
  refine ⟨_, hrun, ?_, ?_, canonical_of_normalize hrun⟩
  · decide +kernel
  · decide +kernel

end TableClasses.Schema
