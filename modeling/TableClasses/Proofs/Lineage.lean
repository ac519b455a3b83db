import Mathlib.Data.List.Perm.Subperm
import TableClasses.ValueObject.Catalog

/-!
# Searching along the parents

A type may have an unknown parent, and parents may form a cycle. `Nearest` says what a search along
the parents finds, without a walk and its bound: what the first type on the way gives that gives
anything. The search along `lineage` finds exactly this, since the line is closed under parents: it
ends only where there is no parent or one that it has already.
-/

namespace TableClasses.ValueObject.Catalog

variable {α : Type} {c : Catalog} {find : String → Option α} {name parent : String}

/-- What is found for the nearest of a type and its ancestors for which anything is found. -/
inductive Nearest (c : Catalog) (find : String → Option α) : String → α → Prop
  | here {name : String} {a : α} : find name = some a → Nearest c find name a
  | up {name parent : String} {a : α} : find name = none → c.parent? name = some parent →
      Nearest c find parent a → Nearest c find name a

theorem Nearest.unique {a b : α} (ha : Nearest c find name a) (hb : Nearest c find name b) :
    a = b := by
  induction ha with
  | here hfind =>
    cases hb with
    | here hfind' => exact Option.some.inj (hfind.symm.trans hfind')
    | up hnone _ _ => rw [hfind] at hnone; cases hnone
  | up hnone hparent _ ih =>
    cases hb with
    | here hfind => rw [hfind] at hnone; cases hnone
    | up _ hparent' hb =>
      obtain rfl := Option.some.inj (hparent.symm.trans hparent')
      exact ih hb

/-! ## Registering -/

theorem get?_register_self (c : Catalog) {d : TypeDecl} (h : normalizeName d.name = name) :
    (c.register d).get? name = some d.normalize := by
  subst h
  exact Entries.get?_put_self c (normalizeName d.name) d.normalize

theorem get?_register_of_ne (c : Catalog) {d : TypeDecl} (h : normalizeName d.name ≠ name) :
    (c.register d).get? name = c.get? name :=
  Entries.get?_put_of_ne c d.normalize h

/-! ## Climbing -/

theorem mem_keys_of_parent? (h : c.parent? name = some parent) : name ∈ c.keys := by
  unfold parent? at h
  obtain ⟨d, hd, -⟩ := Option.bind_eq_some_iff.1 h
  rw [← Entries.has_iff, Entries.has, hd]
  rfl

/-- A climb on its way: the types behind it are known and differ, and the fuel is what they leave
of two more than there are types. -/
structure Climbing (c : Catalog) (fuel : Nat) (seen : List String) : Prop where
  nodup : seen.Nodup
  known : seen ⊆ c.keys
  fuel : fuel + seen.length = c.length + 2

theorem climbing_start (c : Catalog) : Climbing c (c.length + 2) [] :=
  ⟨List.nodup_nil, List.nil_subset _, rfl⟩

theorem Climbing.up {fuel : Nat} {seen : List String} (h : Climbing c (fuel + 1) seen)
    (hnew : name ∉ seen) (hparent : c.parent? name = some parent) :
    Climbing c fuel (name :: seen) where
  nodup := List.nodup_cons.2 ⟨hnew, h.nodup⟩
  known := List.cons_subset.2 ⟨mem_keys_of_parent? hparent, h.known⟩
  fuel := by
    have := h.fuel
    rw [List.length_cons]
    omega

/-- The fuel does not run out: as many types cannot have been seen. -/
theorem Climbing.fuel_pos {fuel : Nat} {seen : List String} (h : Climbing c fuel seen) :
    fuel ≠ 0 := by
  have hlength : seen.length ≤ c.length := by
    have := (List.subperm_of_subset h.nodup h.known).length_le
    rwa [Entries.keys, List.length_map] at this
  have := h.fuel
  omega

/-- A climb comes to its start, now or before. -/
theorem start_mem_climb {fuel : Nat} {seen : List String} (h : Climbing c fuel seen)
    (start : String) : start ∈ seen ++ climb c fuel seen start := by
  cases fuel with
  | zero => exact absurd rfl h.fuel_pos
  | succ fuel =>
    rw [climb]
    by_cases hseen : start ∈ seen
    · exact List.mem_append_left _ hseen
    · rw [if_neg hseen]
      exact List.mem_append_right _ List.mem_cons_self

/-- A climb goes on to the parent of each type in it, unless it has been there. -/
theorem parent_mem_climb {fuel : Nat} {seen : List String} (h : Climbing c fuel seen)
    {start : String} (hname : name ∈ climb c fuel seen start)
    (hparent : c.parent? name = some parent) : parent ∈ seen ++ climb c fuel seen start := by
  induction fuel generalizing seen start with
  | zero => cases hname
  | succ fuel ih =>
    rw [climb] at hname ⊢
    by_cases hseen : start ∈ seen
    · rw [if_pos hseen] at hname
      cases hname
    · rw [if_neg hseen] at hname ⊢
      refine List.perm_middle.mem_iff.2 ?_
      obtain rfl | hname := List.mem_cons.1 hname
      · rw [hparent]
        exact start_mem_climb (h.up hseen hparent) parent
      · cases hstart : c.parent? start with
        | none =>
          rw [hstart] at hname
          cases hname
        | some up =>
          rw [hstart] at hname
          exact ih (h.up hseen hstart) hname

/-- What the types of a climb give first is what the nearest of them gives. -/
theorem nearest_of_climb {fuel : Nat} {seen : List String} {a : α}
    (h : (climb c fuel seen name).findSome? find = some a) : Nearest c find name a := by
  induction fuel generalizing seen name with
  | zero => cases h
  | succ fuel ih =>
    rw [climb] at h
    split at h
    · cases h
    · rw [List.findSome?_cons] at h
      cases hfind : find name with
      | some b =>
        rw [hfind] at h
        exact .here (hfind.trans h)
      | none =>
        rw [hfind] at h
        cases hparent : c.parent? name with
        | none => rw [hparent] at h; cases h
        | some parent => rw [hparent] at h; exact .up hfind hparent (ih h)

/-! ## Lines -/

theorem mem_lineage_self (c : Catalog) (name : String) : normalizeName name ∈ c.lineage name :=
  start_mem_climb (climbing_start c) (normalizeName name)

theorem parent_mem_lineage {start : String} (hname : name ∈ c.lineage start)
    (hparent : c.parent? name = some parent) : parent ∈ c.lineage start :=
  parent_mem_climb (climbing_start c) hname hparent

/-- Where types and their parents give nothing, nothing is found. -/
theorem Nearest.exists_mem {line : List String} {a : α} (h : Nearest c find name a)
    (hclosed : ∀ n ∈ line, ∀ p, c.parent? n = some p → p ∈ line) (hname : name ∈ line) :
    ∃ n ∈ line, find n ≠ none := by
  induction h with
  | here hfind => exact ⟨_, hname, by rw [hfind]; exact Option.some_ne_none _⟩
  | up _ hparent _ ih => exact ih (hclosed _ hname _ hparent)

/-- The search along a line finds what the nearest type gives. -/
theorem findSome?_lineage_iff {a : α} :
    (c.lineage name).findSome? find = some a ↔ Nearest c find (normalizeName name) a := by
  constructor
  · exact nearest_of_climb
  · intro h
    cases hline : (c.lineage name).findSome? find with
    | some b => rw [h.unique (nearest_of_climb hline)]
    | none =>
      -- a walk along the parents cannot leave the line before something is found
      obtain ⟨n, hn, hfind⟩ := h.exists_mem (fun _ hn _ => parent_mem_lineage hn)
        (mem_lineage_self c name)
      exact absurd (List.findSome?_eq_none_iff.1 hline n hn) hfind

theorem findSome?_lineage_eq_none_iff :
    (c.lineage name).findSome? find = none ↔ ∀ a, ¬ Nearest c find (normalizeName name) a := by
  simp only [← findSome?_lineage_iff, Option.eq_none_iff_forall_ne_some, ne_eq]

/-! ## Methods -/

/-- The first declaration of a method that a type has itself. -/
def declared? (c : Catalog) (method type : String) : Option MethodDecl :=
  (c.get? type).bind fun d => d.methods.find? (·.name == method)

/-- The declaration of a method that counts for a type: the first one of the nearest of the type
and its ancestors that has one. -/
def Declares (c : Catalog) (type method : String) (d : MethodDecl) : Prop :=
  c.Nearest (c.declared? method) (normalizeName type) d

variable {type method : String} {d : MethodDecl}

theorem findMethod?_eq_some_iff : c.findMethod? type method = some d ↔ c.Declares type method d :=
  findSome?_lineage_iff

theorem findMethod?_eq_none_iff :
    c.findMethod? type method = none ↔ ∀ d, ¬ c.Declares type method d :=
  findSome?_lineage_eq_none_iff

/-- A declaration has the name under which it is looked for. -/
theorem Declares.name_eq (h : c.Declares type method d) : d.name = method := by
  unfold Declares at h
  generalize normalizeName type = start at h
  induction h with
  | here hfind =>
    obtain ⟨_, -, hmethod⟩ := Option.bind_eq_some_iff.1 hfind
    simpa using List.find?_some hmethod
  | up _ _ _ ih => exact ih

end TableClasses.ValueObject.Catalog
