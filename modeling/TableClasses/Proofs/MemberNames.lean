import TableClasses.Classes.Data
import TableClasses.Proofs.Spelling
import TableClasses.Proofs.Tables

/-!
# Names of the members of a data class

A table tells its columns apart by their fields without regard to case. Getters, setters and the
keys of `fromArray` are spelt in other ways, so two columns may still meet in one of them. This
takes a word that begins with a character whose capital form has another small form, such as `ſ`,
which is capitalized to `S`: columns whose words all begin regularly never meet.
-/

namespace TableClasses.Classes

open TableClasses.Text TableClasses.Naming

/-- No two members of a data class have one name. The language does not regard the case of ASCII
letters in the names of methods. -/
structure NoClash (t : Table) : Prop where
  getters : (t.columns.map fun c => asciiLower c.getter).Nodup
  setters : (t.readOnly.map fun c => asciiLower c.setter).Nodup
  fields : (t.columns.map Column.field).Nodup
  keys : ∀ style : KeyStyle, (t.readWrite.map fun c => style.apply c.name).Nodup

/-- Two columns whose methods differ, and whose keys do if both have one. -/
def Apart (a b : Column) : Prop :=
  asciiLower (pascal a.name) ≠ asciiLower (pascal b.name) ∧
    (a.readOnly = true ∨ b.readOnly = true ∨ snake a.name ≠ snake b.name)

instance (a b : Column) : Decidable (Apart a b) := inferInstanceAs (Decidable (_ ∧ _))

/-! ## Methods -/

theorem asciiLower_getter_eq_iff {a b : Column} :
    asciiLower a.getter = asciiLower b.getter ↔
      asciiLower (pascal a.name) = asciiLower (pascal b.name) := by
  rw [Column.getter, Column.getter, asciiLower_append, asciiLower_append, String.append_right_inj]

theorem asciiLower_setter_eq_iff {a b : Column} :
    asciiLower a.setter = asciiLower b.setter ↔
      asciiLower (pascal a.name) = asciiLower (pascal b.name) := by
  rw [Column.setter, Column.setter, asciiLower_append, asciiLower_append, String.append_right_inj]

/-! ## Columns of regular names -/

/-- Faithful names with different fields are different in every spelling. -/
theorem apart_of_faithful {a b : Column} (ha : Faithful a.name) (hb : Faithful b.name)
    (h : a.fieldKey ≠ b.fieldKey) : Apart a b := by
  have hflat : flat a.name.toList ≠ flat b.name.toList := by
    intro he
    refine h ?_
    rw [Column.fieldKey, Column.fieldKey, Column.field, Column.field, ha.lowerText_camel,
      hb.lowerText_camel, he]
  refine ⟨fun he => hflat ?_, .inr (.inr fun he => hflat (flat_eq_of_snake_eq he))⟩
  have hlower := congrArg lowerText he
  rw [lowerText_asciiLower, lowerText_asciiLower, ha.lowerText_pascal,
    hb.lowerText_pascal] at hlower
  exact String.ofList_injective hlower

/-! ## Columns of a table -/

section
variable {name : String} {columns : List Column} {key : Option String} {t : Table}

theorem nodup_snake_iff (t : Table) :
    (t.readWrite.map fun c => snake c.name).Nodup ↔
      t.columns.Pairwise fun a b =>
        a.readOnly = true ∨ b.readOnly = true ∨ snake a.name ≠ snake b.name := by
  rw [List.Nodup, List.pairwise_map, Table.readWrite, List.pairwise_filter]
  refine List.Pairwise.iff fun a b => ?_
  cases a.readOnly <;> cases b.readOnly <;> simp

/-- Members clash in their methods and in their keys in snake case, or nowhere. -/
theorem noClash_iff_pairwise_apart (h : Table.make name columns key = .ok t) :
    NoClash t ↔ t.columns.Pairwise Apart := by
  constructor
  · intro hclash
    have hgetters := hclash.getters
    rw [List.Nodup, List.pairwise_map] at hgetters
    refine (hgetters.and ((nodup_snake_iff t).1 (hclash.keys .snakeCase))).imp ?_
    intro a b hab
    exact ⟨fun he => hab.1 (asciiLower_getter_eq_iff.2 he), hab.2⟩
  · intro hapart
    have hreadWrite : t.readWrite.Pairwise Apart := hapart.sublist List.filter_sublist
    have hreadOnly : t.readOnly.Pairwise Apart := hapart.sublist List.filter_sublist
    refine ⟨?_, ?_, Table.nodup_fields h, fun style => ?_⟩
    · refine List.pairwise_map.2 (hapart.imp fun hab he => hab.1 ?_)
      exact asciiLower_getter_eq_iff.1 he
    · refine List.pairwise_map.2 (hreadOnly.imp fun hab he => hab.1 ?_)
      exact asciiLower_setter_eq_iff.1 he
    · cases style with
      | raw => exact (Table.nodup_names h).sublist (List.filter_sublist.map _)
      | camelCase => exact (Table.nodup_fields h).sublist (List.filter_sublist.map _)
      | pascalCase =>
        refine List.pairwise_map.2 (hreadWrite.imp fun hab he => hab.1 ?_)
        exact congrArg asciiLower he
      | snakeCase => exact (nodup_snake_iff t).2 (hapart.imp fun hab => hab.2)

/-- The fields of a table leave only irregular names to be told apart. -/
theorem pairwise_apart_iff (h : Table.make name columns key = .ok t) :
    t.columns.Pairwise Apart ↔
      t.columns.Pairwise fun a b => Faithful a.name ∧ Faithful b.name ∨ Apart a b := by
  have hkeys := Table.nodup_fieldKeys h
  rw [List.Nodup, List.pairwise_map] at hkeys
  constructor
  · exact fun hapart => hapart.imp .inr
  · intro hpairs
    refine (hkeys.and hpairs).imp ?_
    rintro a b ⟨hkey, ⟨ha, hb⟩ | hab⟩
    · exact apart_of_faithful ha hb hkey
    · exact hab

/-- Columns with ASCII names have members of different names. -/
theorem noClash_of_ascii (h : Table.make name columns key = .ok t)
    (hascii : ∀ c ∈ t.columns, ∀ x ∈ c.name.toList, x.toNat < 128) : NoClash t := by
  rw [noClash_iff_pairwise_apart h, pairwise_apart_iff h]
  refine List.pairwise_of_forall_mem_list fun a ha b hb => .inl ?_
  exact ⟨faithful_of_ascii (hascii a ha), faithful_of_ascii (hascii b hb)⟩

/-- In every table fields, raw keys and keys in camel case differ. Nothing clashes exactly if every
two columns have names whose words all begin regularly, or differ in their methods and keys. -/
theorem noClash_iff (h : Table.make name columns key = .ok t) :
    (t.columns.map Column.field).Nodup ∧
      (∀ style ∈ [KeyStyle.raw, .camelCase],
        (t.readWrite.map fun c => style.apply c.name).Nodup) ∧
      (NoClash t ↔
        t.columns.Pairwise fun a b => Faithful a.name ∧ Faithful b.name ∨ Apart a b) := by
  refine ⟨Table.nodup_fields h, ?_, ?_⟩
  · simp only [List.forall_mem_cons]
    refine ⟨?_, ?_, fun style hstyle => nomatch hstyle⟩
    · exact (Table.nodup_names h).sublist (List.filter_sublist.map _)
    · exact (Table.nodup_fields h).sublist (List.filter_sublist.map _)
  · rw [noClash_iff_pairwise_apart h, pairwise_apart_iff h]

end

/-- Columns of Greek and Turkish names that are regular or apart. -/
def regularColumns : List Column :=
  [{ name := "Όνομα_πελάτη", scalar := .string }, { name := "ığdır", scalar := .string },
   { name := "ıd", scalar := .int },
   { name := "created_at", scalar := .datetime, readOnly := true }]

theorem noClash_regularColumns : NoClash ⟨"customers", regularColumns, none⟩ := by
  have h : Table.make "customers" regularColumns none
      = .ok ⟨"customers", regularColumns, none⟩ := by decide +kernel
  exact (noClash_iff h).2.2.2 (by decide +kernel)

/-- `ſ` is small and not the small form of any other letter, but it is capitalized to `S`. -/
def longColumns : List Column := [{ name := "ſ", scalar := .int }, { name := "s", scalar := .int }]

theorem longColumns_clash :
    ∃ t, Table.make "t" longColumns none = .ok t ∧ ¬ NoClash t := by
  refine ⟨⟨"t", longColumns, none⟩, by decide +kernel, fun h => ?_⟩
  have hgetters := h.getters
  revert hgetters
  decide +kernel

end TableClasses.Classes
