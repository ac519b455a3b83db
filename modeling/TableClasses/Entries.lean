/-!
# Ordered entries

A mapping from names to values that keeps the order in which its names first came. Putting a value
under a name that is there replaces the value and leaves the name at its place; a new name goes to
the end. The lemmas say what is found after a `put` or an `erase` and which names there are.
-/

namespace TableClasses

/-- Names with values, in order. -/
abbrev Entries (α : Type) := List (String × α)

namespace Entries

variable {α : Type}

/-- The value of the first entry with this name. -/
def get? : Entries α → String → Option α
  | [], _ => none
  | (k, v) :: rest, name => if k = name then some v else get? rest name

def keys (es : Entries α) : List String := es.map (·.1)

def has (es : Entries α) (name : String) : Bool := (es.get? name).isSome

/-- Sets the value of a name. -/
def put : Entries α → String → α → Entries α
  | [], name, value => [(name, value)]
  | (k, v) :: rest, name, value =>
    if k = name then (k, value) :: rest else (k, v) :: put rest name value

/-- The entries without the first one of a name; the others keep their order. -/
def erase : Entries α → String → Entries α
  | [], _ => []
  | (k, v) :: rest, name => if k = name then rest else (k, v) :: erase rest name

/-- The entries of a list that may repeat names: the first place and the last value count. -/
def ofList (l : List (String × α)) : Entries α := l.foldl (fun es e => es.put e.1 e.2) []

@[simp] theorem get?_nil (name : String) : get? ([] : Entries α) name = none := rfl

theorem get?_put_self (es : Entries α) (name : String) (value : α) :
    (es.put name value).get? name = some value := by
  induction es with
  | nil => simp [put, get?]
  | cons e rest ih =>
    obtain ⟨k, v⟩ := e
    by_cases h : k = name <;> simp [put, get?, h, ih]

theorem get?_put_of_ne (es : Entries α) {name other : String} (value : α) (h : name ≠ other) :
    (es.put name value).get? other = es.get? other := by
  induction es with
  | nil => simp [put, get?, h]
  | cons e rest ih =>
    obtain ⟨k, v⟩ := e
    by_cases hk : k = name
    · subst hk; simp [put, get?, h]
    · simp only [put, if_neg hk, get?, ih]

theorem put_of_not_mem (es : Entries α) {name : String} (value : α) (h : name ∉ es.keys) :
    es.put name value = es ++ [(name, value)] := by
  induction es with
  | nil => rfl
  | cons e rest ih =>
    obtain ⟨k, v⟩ := e
    simp only [keys, List.map_cons, List.mem_cons, not_or] at h
    rw [put, if_neg (Ne.symm h.1), ih h.2, List.cons_append]

/-- Entries whose names differ are the entries of themselves as a list. -/
theorem ofList_of_nodup {l : List (String × α)} (h : (l.map (·.1)).Nodup) : ofList l = l := by
  have hfold : ∀ es : Entries α, ((es ++ l).map (·.1)).Nodup →
      l.foldl (fun es e => es.put e.1 e.2) es = es ++ l := by
    clear h
    induction l with
    | nil => simp
    | cons e rest ih =>
      intro es hnodup
      have hnew : e.1 ∉ es.keys := by
        rw [List.map_append, List.map_cons] at hnodup
        exact fun hm => (List.nodup_append.1 hnodup).2.2 _ hm _ List.mem_cons_self rfl
      rw [List.foldl_cons, put_of_not_mem es e.2 hnew, ih _ (by simpa using hnodup)]
      simp
  exact hfold [] h

theorem get?_of_mem {es : Entries α} (h : es.keys.Nodup) {name : String} {value : α}
    (hm : (name, value) ∈ es) : es.get? name = some value := by
  induction es with
  | nil => cases hm
  | cons e rest ih =>
    obtain ⟨k, v⟩ := e
    rw [keys, List.map_cons, List.nodup_cons] at h
    obtain he | hm := List.mem_cons.1 hm
    · obtain ⟨rfl, rfl⟩ := Prod.mk.inj he
      rw [get?, if_pos rfl]
    · have hne : k ≠ name := fun he => h.1 (he ▸ List.mem_map.2 ⟨_, hm, rfl⟩)
      rw [get?, if_neg hne, ih h.2 hm]

theorem get?_eq_none_iff (es : Entries α) (name : String) :
    es.get? name = none ↔ name ∉ es.keys := by
  induction es with
  | nil => simp [keys]
  | cons e rest ih =>
    obtain ⟨k, v⟩ := e
    by_cases h : k = name
    · simp [get?, keys, h]
    · simpa [get?, keys, h, Ne.symm h] using ih

theorem has_iff (es : Entries α) (name : String) : es.has name = true ↔ name ∈ es.keys := by
  have := get?_eq_none_iff es name
  cases h : es.get? name <;> simp_all [has]

theorem keys_put (es : Entries α) (name : String) (value : α) :
    (es.put name value).keys = if name ∈ es.keys then es.keys else es.keys ++ [name] := by
  induction es with
  | nil => simp [put, keys]
  | cons e rest ih =>
    obtain ⟨k, v⟩ := e
    simp only [keys] at ih
    by_cases h : k = name
    · subst h; simp [put, keys]
    · by_cases hm : name ∈ rest.map (·.1) <;> simp_all [put, keys, Ne.symm h]

theorem nodup_keys_put {es : Entries α} (h : es.keys.Nodup) (name : String) (value : α) :
    (es.put name value).keys.Nodup := by
  rw [keys_put]
  split
  · exact h
  · next hnew =>
    refine List.nodup_append.2 ⟨h, by simp, fun k hk other hother he => ?_⟩
    rw [List.mem_singleton.1 hother] at he
    exact hnew (he ▸ hk)

end Entries

end TableClasses
