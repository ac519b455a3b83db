import Mathlib.Data.List.Forall2
import Mathlib.Data.List.Nodup
import Mathlib.Data.List.Pairwise
import TableClasses.Proofs.Drafts

/-!
# Column records fact by fact

A record is the same however it is laid out. The names of a layout's facts differ, so what an
object gives is a list of facts with their values (`Layout.given`), and the object is a record
exactly if no fact stands there twice. The order of its keys, which of its names a fact goes by, and
keys that name nothing do not matter, neither to the record nor to the columns that are made of it.
An array is the object that gives its items to the facts in their order.
-/

namespace TableClasses.Schema

open TableClasses.ValueObject

/-! ## Records of given facts -/

namespace Record

theorem ext_get {r r' : Record} (h : ∀ f, r.get f = r'.get f) : r = r' := by
  obtain ⟨⟩ := r
  obtain ⟨⟩ := r'
  congr 1
  · exact h .dataType
  · exact h .nullable
  · exact h .default
  · exact h .maxLength
  · exact h .key
  · exact h .comment

@[simp] theorem get_empty (f : Fact) : ({} : Record).get f = .null := by
  cases f <;> rfl

/-- Sets facts one after the other. -/
def setAll (r : Record) (given : List (Fact × Json)) : Record :=
  given.foldl (fun r g => r.set g.1 g.2) r

theorem get_setAll_of_not_mem (r : Record) {given : List (Fact × Json)} {f : Fact}
    (h : f ∉ given.map (·.1)) : (r.setAll given).get f = r.get f := by
  induction given generalizing r with
  | nil => rfl
  | cons g given ih =>
    rw [List.map_cons, List.mem_cons, not_or] at h
    exact (ih (r.set g.1 g.2) h.2).trans (get_set_of_ne r g.2 (Ne.symm h.1))

theorem get_setAll_of_mem (r : Record) {given : List (Fact × Json)}
    (hgiven : (given.map (·.1)).Nodup) {f : Fact} {v : Json} (h : (f, v) ∈ given) :
    (r.setAll given).get f = v := by
  induction given generalizing r with
  | nil => cases h
  | cons g given ih =>
    obtain ⟨hg, hgiven⟩ := List.nodup_cons.1 hgiven
    obtain rfl | h := List.mem_cons.1 h
    · exact (get_setAll_of_not_mem _ hg).trans (get_set_self r f v)
    · exact ih (r.set g.1 g.2) hgiven h

theorem setAll_perm (r : Record) {given given' : List (Fact × Json)} (h : given.Perm given')
    (hgiven : (given.map (·.1)).Nodup) : r.setAll given = r.setAll given' := by
  have hgiven' : (given'.map (·.1)).Nodup := (h.map (·.1)).nodup_iff.1 hgiven
  refine ext_get fun f => ?_
  by_cases hf : f ∈ given.map (·.1)
  · obtain ⟨⟨f, v⟩, hmem, rfl⟩ := List.mem_map.1 hf
    rw [get_setAll_of_mem r hgiven hmem, get_setAll_of_mem r hgiven' (h.mem_iff.1 hmem)]
  · have hf' : f ∉ given'.map (·.1) := fun hmem => hf ((h.map (·.1)).mem_iff.2 hmem)
    rw [get_setAll_of_not_mem r hf, get_setAll_of_not_mem r hf']

end Record

namespace Layout

/-! ## Names of facts -/

/-- The key is a name of the fact. -/
def Names (l : Layout) (key : String) (f : Fact) : Prop :=
  ∃ name others, (f, name, others) ∈ l.facts ∧ key ∈ name :: others

/-- Every fact is listed once, and so is every name. -/
structure Proper (l : Layout) : Prop where
  facts : (l.facts.map (·.1)).Nodup
  names : (l.facts.flatMap fun e => e.2.1 :: e.2.2).Nodup

theorem proper_catalogLayout : catalogLayout.Proper := ⟨by decide, by decide⟩

theorem proper_groupedLayout : groupedLayout.Proper := ⟨by decide, by decide⟩

theorem isName_iff (e : Fact × String × List String) (key : String) :
    (e.2.1 == key || e.2.2.contains key) = true ↔ key ∈ e.2.1 :: e.2.2 := by
  rw [Bool.or_eq_true, beq_iff_eq, List.contains_iff_mem, List.mem_cons, eq_comm]

/-- The fact that a key names. -/
def factOf? (l : Layout) (key : String) : Option Fact := (l.fact? key).map (·.1)

theorem factOf?_eq (l : Layout) (key : String) :
    l.factOf? key
      = (l.facts.find? fun e => e.2.1 == key || e.2.2.contains key).map (·.1) := by
  unfold factOf? fact?
  rw [Option.map_map]
  rfl

section
variable {l : Layout} (h : l.Proper)

include h

/-- No two facts share a name. -/
theorem Proper.entry_unique {e e' : Fact × String × List String} (he : e ∈ l.facts)
    (he' : e' ∈ l.facts) {key : String} (hkey : key ∈ e.2.1 :: e.2.2)
    (hkey' : key ∈ e'.2.1 :: e'.2.2) : e = e' := by
  by_contra hne
  have hsymm : Std.Symm (Function.onFun List.Disjoint
      fun e : Fact × String × List String => e.2.1 :: e.2.2) :=
    ⟨fun _ _ hd => List.disjoint_symm hd⟩
  exact (List.nodup_flatMap.1 h.names).2.forall he he' hne hkey hkey'

theorem Proper.factOf?_eq_some_iff {key : String} {f : Fact} :
    l.factOf? key = some f ↔ l.Names key f := by
  rw [factOf?_eq, Option.map_eq_some_iff]
  constructor
  · rintro ⟨⟨f, name, others⟩, hfind, rfl⟩
    have hkey := List.find?_some hfind
    exact ⟨name, others, List.mem_of_find?_eq_some hfind, (isName_iff _ key).1 hkey⟩
  · rintro ⟨name, others, hmem, hkey⟩
    cases hfind : l.facts.find? fun e => e.2.1 == key || e.2.2.contains key with
    | none => exact absurd ((isName_iff _ key).2 hkey) (List.find?_eq_none.1 hfind _ hmem)
    | some e =>
      have hkey' := List.find?_some hfind
      have hsame := h.entry_unique (List.mem_of_find?_eq_some hfind) hmem
        ((isName_iff e key).1 hkey') hkey
      exact ⟨e, rfl, congrArg (·.1) hsame⟩

theorem Proper.factOf?_eq_none_iff {key : String} :
    l.factOf? key = none ↔ ∀ f, ¬ l.Names key f := by
  simp only [← h.factOf?_eq_some_iff, Option.eq_none_iff_forall_ne_some, ne_eq]

end

/-! ## What an object gives -/

/-- The facts that an object gives, in its order. -/
def given (l : Layout) (es : Entries Json) : List (Fact × Json) :=
  es.filterMap fun e => (l.factOf? e.1).map fun f => (f, e.2)

/-- No two keys name one fact. -/
def Unambiguous (l : Layout) (es : Entries Json) : Prop :=
  (es.map (·.1)).Pairwise fun key key' => ∀ f, ¬ (l.Names key f ∧ l.Names key' f)

theorem toOption_collect (l : Layout) (seen : List Fact) (r : Record) (es : Entries Json) :
    (l.collect seen r es).toOption =
      if ((l.given es).map (·.1)).Nodup ∧ ∀ f ∈ (l.given es).map (·.1), f ∉ seen
        then some (r.setAll (l.given es)) else none := by
  induction es generalizing seen r with
  | nil => simp [collect, given, Record.setAll, Except.toOption]
  | cons e rest ih =>
    obtain ⟨key, v⟩ := e
    rw [collect]
    cases hfact : l.fact? key with
    | none =>
      have hgiven : l.given ((key, v) :: rest) = l.given rest := by
        simp [given, factOf?, hfact]
      rw [hgiven]
      exact ih seen r
    | some found =>
      obtain ⟨f, name⟩ := found
      have hgiven : l.given ((key, v) :: rest) = (f, v) :: l.given rest := by
        simp [given, factOf?, hfact]
      rw [hgiven]
      by_cases hseen : f ∈ seen
      · simp [hseen, Except.toOption]
      · have hiff : (((l.given rest).map (·.1)).Nodup ∧
            ∀ g ∈ (l.given rest).map (·.1), g ∉ f :: seen) ↔
            (((f, v) :: l.given rest).map (·.1)).Nodup ∧
              ∀ g ∈ ((f, v) :: l.given rest).map (·.1), g ∉ seen := by
          rw [List.map_cons, List.nodup_cons, List.forall_mem_cons]
          simp only [List.mem_cons, not_or]
          constructor
          · rintro ⟨hnodup, hrest⟩
            exact ⟨⟨fun hf => (hrest f hf).1 rfl, hnodup⟩, hseen, fun g hg => (hrest g hg).2⟩
          · rintro ⟨⟨hf, hnodup⟩, -, hrest⟩
            exact ⟨hnodup, fun g hg => ⟨fun he => hf (he ▸ hg), hrest g hg⟩⟩
        simp only [if_neg hseen, ih, hiff]
        rfl

theorem toOption_decode_object (l : Layout) (es : Entries Json) :
    (l.decode (.object es)).toOption =
      if ((l.given es).map (·.1)).Nodup then some (({} : Record).setAll (l.given es))
      else none := by
  simp only [decode, toOption_collect, List.not_mem_nil, not_false_eq_true, implies_true, and_true]

theorem error_iff_toOption {ε α : Type} {x : Except ε α} :
    (∃ fault, x = .error fault) ↔ x.toOption = none := by
  cases x <;> simp [Except.toOption]

theorem ok_iff_toOption {ε α : Type} {x : Except ε α} {a : α} :
    x = .ok a ↔ x.toOption = some a := by
  cases x <;> simp [Except.toOption]

/-! ## Layouts of one record -/

/-- How a record can be laid out anew: its keys in another order, another name of a fact, a further
key that names nothing. -/
inductive Relaid (l : Layout) : Entries Json → Entries Json → Prop
  | permuted {es es' : Entries Json} (h : es.Perm es') : Relaid l es es'
  | renamed (before after : Entries Json) {key key' : String} {f : Fact} {v : Json}
      (h : l.Names key f) (h' : l.Names key' f) :
    Relaid l (before ++ (key, v) :: after) (before ++ (key', v) :: after)
  | extended (before after : Entries Json) {key : String} {v : Json} (h : ∀ f, ¬ l.Names key f) :
    Relaid l (before ++ after) (before ++ (key, v) :: after)
  | trans {es es' es'' : Entries Json} (h : Relaid l es es') (h' : Relaid l es' es'') :
    Relaid l es es''

section
variable {l : Layout} (h : l.Proper)

include h

theorem Proper.mem_given {es : Entries Json} {f : Fact} {v : Json} :
    (f, v) ∈ l.given es ↔ ∃ key, (key, v) ∈ es ∧ l.Names key f := by
  unfold given
  simp only [List.mem_filterMap, Option.map_eq_some_iff, Prod.mk.injEq, h.factOf?_eq_some_iff]
  constructor
  · rintro ⟨⟨key, v⟩, hmem, g, hname, rfl, rfl⟩
    exact ⟨key, hmem, hname⟩
  · rintro ⟨key, hmem, hname⟩
    exact ⟨(key, v), hmem, f, hname, rfl, rfl⟩

theorem Proper.nodup_given_iff (es : Entries Json) :
    ((l.given es).map (·.1)).Nodup ↔ l.Unambiguous es := by
  have hfacts : (l.given es).map (·.1) = (es.map (·.1)).filterMap l.factOf? := by
    unfold given
    rw [List.map_filterMap, List.filterMap_map]
    refine List.filterMap_congr fun e _ => ?_
    show _ = l.factOf? e.1
    cases l.factOf? e.1 <;> rfl
  rw [hfacts, List.Nodup, List.pairwise_filterMap, Unambiguous]
  refine List.Pairwise.iff fun {key key'} => ?_
  simp only [h.factOf?_eq_some_iff]
  constructor
  · exact fun hne f ⟨hkey, hkey'⟩ => hne f hkey f hkey' rfl
  · rintro hnone f hkey g hkey' rfl
    exact hnone f ⟨hkey, hkey'⟩

theorem Proper.given_perm {es es' : Entries Json} (hes : l.Relaid es es') :
    (l.given es).Perm (l.given es') := by
  induction hes with
  | permuted hperm => exact hperm.filterMap _
  | renamed before after hkey hkey' =>
    simp only [given, List.filterMap_append, List.filterMap_cons, Option.map_some,
      h.factOf?_eq_some_iff.2 hkey, h.factOf?_eq_some_iff.2 hkey']
    exact .refl _
  | extended before after hkey =>
    simp only [given, List.filterMap_append, List.filterMap_cons, Option.map_none,
      h.factOf?_eq_none_iff.2 hkey]
    exact .refl _
  | trans _ _ ih ih' => exact ih.trans ih'

theorem Proper.toOption_decode_relaid {es es' : Entries Json} (hes : l.Relaid es es') :
    (l.decode (.object es)).toOption = (l.decode (.object es')).toOption := by
  have hperm := h.given_perm hes
  have hnodup := (hperm.map (·.1)).nodup_iff
  rw [toOption_decode_object, toOption_decode_object]
  by_cases hgiven : ((l.given es).map (·.1)).Nodup
  · rw [if_pos hgiven, if_pos (hnodup.1 hgiven), Record.setAll_perm _ hperm hgiven]
  · rw [if_neg hgiven, if_neg fun hgiven' => hgiven (hnodup.2 hgiven')]

end

/-! ## Arrays -/

/-- The object that gives items to the facts in their order. -/
def inOrder (l : Layout) (vs : List Json) : Entries Json := (l.facts.map (·.2.1)).zip vs

theorem map_fst_zip_sublist {α β : Type} (as : List α) (bs : List β) :
    ((as.zip bs).map (·.1)).Sublist as := by
  induction as generalizing bs with
  | nil => simp
  | cons a as ih =>
    cases bs with
    | nil => simp
    | cons b bs => exact (ih bs).cons_cons a

theorem assign_eq (r : Record) (fs : List Fact) (vs : List Json) :
    assign r fs vs = r.setAll (fs.zip vs) := by
  induction fs generalizing r vs with
  | nil => cases vs <;> rfl
  | cons f fs ih =>
    cases vs with
    | nil => rfl
    | cons v vs => exact ih (r.set f v) vs

section
variable {l : Layout} (h : l.Proper)

include h

theorem Proper.given_inOrder (vs : List Json) :
    l.given (l.inOrder vs) = (l.facts.map (·.1)).zip vs := by
  have hnames : ∀ e ∈ l.facts, l.factOf? e.2.1 = some e.1 := fun e he =>
    h.factOf?_eq_some_iff.2 ⟨e.2.1, e.2.2, he, List.mem_cons_self⟩
  unfold given inOrder
  rw [List.zip_map_left, List.zip_map_left, List.filterMap_map, ← List.filterMap_eq_map]
  refine List.filterMap_congr fun p hp => ?_
  show (l.factOf? p.1.2.1).map _ = _
  rw [hnames p.1 (List.of_mem_zip hp).1]
  rfl

theorem Proper.nodup_given_inOrder (vs : List Json) :
    ((l.given (l.inOrder vs)).map (·.1)).Nodup := by
  rw [h.given_inOrder]
  exact h.facts.sublist (map_fst_zip_sublist _ vs)

theorem Proper.decode_array {vs : List Json} (hvs : vs.length ≤ l.facts.length) :
    l.decode (.array vs) = l.decode (.object (l.inOrder vs)) := by
  have hobject := toOption_decode_object l (l.inOrder vs)
  rw [if_pos (h.nodup_given_inOrder vs), h.given_inOrder, ← assign_eq] at hobject
  rw [ok_iff_toOption.2 hobject]
  exact if_neg (Nat.not_lt.2 hvs)

/-- The fact at a position has the item at this position, or null where the array has ended. -/
theorem Proper.get_of_decode_array {vs : List Json} {r : Record}
    (hr : l.decode (.array vs) = .ok r) {i : Nat} {e : Fact × String × List String}
    (he : l.facts[i]? = some e) : r.get e.1 = vs[i]?.getD .null := by
  have hvs : ¬ l.facts.length < vs.length := by
    intro hlong
    rw [decode, if_pos hlong] at hr
    cases hr
  obtain rfl : r = ({} : Record).setAll ((l.facts.map (·.1)).zip vs) := by
    rw [decode, if_neg hvs, assign_eq] at hr
    exact (Except.ok.inj hr).symm
  have hfact : (l.facts.map (·.1))[i]? = some e.1 := by rw [List.getElem?_map, he]; rfl
  have hnodup := h.facts.sublist (map_fst_zip_sublist _ vs)
  cases hitem : vs[i]? with
  | some v =>
    have hzip : ((l.facts.map (·.1)).zip vs)[i]? = some (e.1, v) :=
      List.getElem?_zip_eq_some.2 ⟨hfact, hitem⟩
    exact Record.get_setAll_of_mem _ hnodup (List.mem_of_getElem? hzip)
  | none =>
    refine (Record.get_setAll_of_not_mem _ fun hmem => ?_).trans (Record.get_empty e.1)
    obtain ⟨⟨f, v⟩, hzip, rfl⟩ := List.mem_map.1 hmem
    obtain ⟨j, hj⟩ := List.mem_iff_getElem?.1 hzip
    obtain ⟨hf, hv⟩ := List.getElem?_zip_eq_some.1 hj
    have hlt := (List.getElem?_eq_some_iff.1 hfact).1
    obtain rfl : i = j := (List.getElem?_inj hlt h.facts).1 (hfact.trans hf.symm)
    rw [hitem] at hv
    cases hv

end

theorem decode_array_error (l : Layout) (vs : List Json) :
    (∃ fault, l.decode (.array vs) = .error fault) ↔ l.facts.length < vs.length := by
  unfold decode
  by_cases hvs : l.facts.length < vs.length
  · simp [hvs]
  · simp [hvs]

/-! ## Decoding by fact -/

/-- Records of this layout are decoded fact by fact. -/
structure ByFact (l : Layout) : Prop where
  /-- An object is refused exactly if two of its keys name one fact. -/
  refused : ∀ es, (∃ fault, l.decode (.object es) = .error fault) ↔ ¬ l.Unambiguous es
  /-- A fact is the value under any of its names. -/
  given : ∀ es r, l.decode (.object es) = .ok r → ∀ key f v, l.Names key f → (key, v) ∈ es →
    r.get f = v
  /-- A fact none of whose names is there is null. -/
  missing : ∀ es r, l.decode (.object es) = .ok r → ∀ f,
    (∀ key, l.Names key f → key ∉ es.map (·.1)) → r.get f = .null
  /-- An array is refused exactly if it has more items than there are facts. -/
  tooLong : ∀ vs, (∃ fault, l.decode (.array vs) = .error fault) ↔ l.facts.length < vs.length
  /-- An array is the object that gives its items to the facts in their order. -/
  array : ∀ vs : List Json, vs.length ≤ l.facts.length →
    l.decode (.array vs) = l.decode (.object (l.inOrder vs))
  /-- The facts behind the end of an array are null. -/
  position : ∀ vs r, l.decode (.array vs) = .ok r → ∀ (i : Nat) e, l.facts[i]? = some e →
    r.get e.1 = vs[i]?.getD .null

theorem Proper.byFact {l : Layout} (h : l.Proper) : l.ByFact where
  refused es := by
    have hnodup := h.nodup_given_iff es
    rw [error_iff_toOption, toOption_decode_object]
    by_cases hes : l.Unambiguous es
    · rw [if_pos (hnodup.2 hes)]
      exact iff_of_false (Option.some_ne_none _) (not_not.2 hes)
    · rw [if_neg fun hgiven => hes (hnodup.1 hgiven)]
      exact ⟨fun _ => hes, fun _ => rfl⟩
  given es r hr key f v hname hmem := by
    rw [ok_iff_toOption, toOption_decode_object, Option.ite_none_right_eq_some] at hr
    obtain ⟨hnodup, hr⟩ := hr
    obtain rfl := Option.some.inj hr
    exact Record.get_setAll_of_mem _ hnodup (h.mem_given.2 ⟨key, hmem, hname⟩)
  missing es r hr f hnone := by
    rw [ok_iff_toOption, toOption_decode_object, Option.ite_none_right_eq_some] at hr
    obtain rfl := Option.some.inj hr.2
    refine (Record.get_setAll_of_not_mem _ fun hmem => ?_).trans (Record.get_empty f)
    obtain ⟨⟨f, v⟩, hgiven, rfl⟩ := List.mem_map.1 hmem
    obtain ⟨key, hkey, hname⟩ := h.mem_given.1 hgiven
    exact hnone key hname (List.mem_map_of_mem hkey)
  tooLong := l.decode_array_error
  array _ hvs := h.decode_array hvs
  position _ _ hr _ _ he := h.get_of_decode_array hr he

end Layout

/-! ## Columns of records -/

section
variable (overlay : Option Overlay) (table : String)

/-- What an entry adds to the columns of a catalog table hangs on its record alone. -/
theorem keepColumn_congr (kept : Kept) (name : String) {v v' : Json}
    (h : (catalogLayout.decode v).toOption = (catalogLayout.decode v').toOption) (m : Mapper) :
    (keepColumn overlay table kept (name, v) m).value
      = (keepColumn overlay table kept (name, v') m).value := by
  unfold keepColumn
  simp only [bind_apply, lift_apply, Warned.value_bind, Warned.value_pure, recordOf_value, h]

/-- The column of an entry of a group hangs on its record alone. -/
theorem groupColumn_congr (readOnly : Bool) (name : String) {v v' : Json}
    (h : (groupedLayout.decode v).toOption = (groupedLayout.decode v').toOption) (m : Mapper) :
    (groupColumn overlay table readOnly (name, v) m).value
      = (groupColumn overlay table readOnly (name, v') m).value := by
  unfold groupColumn
  simp only [bind_apply, lift_apply, Warned.value_bind, Warned.value_pure, recordOf_value, h]

end

/-- Two values for one column: the same value, a record laid out anew, or an array and the object
for it. -/
inductive Layout.SameRecord (l : Layout) : Json → Json → Prop
  | refl (v : Json) : SameRecord l v v
  | object {es es' : Entries Json} (h : l.Relaid es es') : SameRecord l (.object es) (.object es')
  | array {vs : List Json} (h : vs.length ≤ l.facts.length) :
    SameRecord l (.array vs) (.object (l.inOrder vs))

theorem Layout.Proper.toOption_decode_sameRecord {l : Layout} (h : l.Proper) {v v' : Json}
    (hv : l.SameRecord v v') : (l.decode v).toOption = (l.decode v').toOption := by
  cases hv with
  | refl => rfl
  | object hes => exact h.toOption_decode_relaid hes
  | array hvs => rw [h.decode_array hvs]

/-- Columns of the same names in the same order whose records are laid out in two ways. -/
def Layout.SameColumns (l : Layout) : Entries Json → Entries Json → Prop :=
  List.Forall₂ fun e e' => e.1 = e'.1 ∧ l.SameRecord e.2 e'.2

section
variable {α β : Type} {R : α → α → Prop}

theorem value_foldlM_congr {f : β → α → Normalizing β}
    (hf : ∀ a a', R a a' → ∀ b m, (f b a m).value = (f b a' m).value) {as as' : List α}
    (h : List.Forall₂ R as as') (b : β) (m : Mapper) :
    (as.foldlM f b m).value = (as'.foldlM f b m).value := by
  induction h generalizing b m with
  | nil => rfl
  | cons ha _ ih =>
    simp only [List.foldlM_cons, bind_apply, Warned.value_bind, hf _ _ ha, ih]

theorem value_mapM_congr {f : α → Normalizing β}
    (hf : ∀ a a', R a a' → ∀ m, (f a m).value = (f a' m).value) {as as' : List α}
    (h : List.Forall₂ R as as') (m : Mapper) :
    (as.mapM f m).value = (as'.mapM f m).value := by
  induction h generalizing m with
  | nil => rfl
  | cons ha _ ih =>
    simp only [List.mapM_cons, bind_apply, Warned.value_bind, pure_apply, hf _ _ ha, ih]

end

section
variable (overlay : Option Overlay) (table : String) {columns columns' : Entries Json}

theorem foldlM_keepColumn_congr (h : catalogLayout.SameColumns columns columns') (kept : Kept)
    (m : Mapper) :
    (columns.foldlM (keepColumn overlay table) kept m).value
      = (columns'.foldlM (keepColumn overlay table) kept m).value := by
  refine value_foldlM_congr (fun e e' hsame kept m => ?_) h kept m
  obtain ⟨name, v⟩ := e
  obtain ⟨rfl, hv⟩ := hsame
  exact keepColumn_congr overlay table kept _
    (Layout.proper_catalogLayout.toOption_decode_sameRecord hv) m

theorem groupColumns_congr (h : groupedLayout.SameColumns columns columns') (readOnly : Bool)
    (m : Mapper) :
    (groupColumns overlay table readOnly columns m).value
      = (groupColumns overlay table readOnly columns' m).value := by
  have hmap : (columns.mapM (groupColumn overlay table readOnly) m).value
      = (columns'.mapM (groupColumn overlay table readOnly) m).value := by
    refine value_mapM_congr (fun e e' hsame m => ?_) h m
    obtain ⟨name, v⟩ := e
    obtain ⟨rfl, hv⟩ := hsame
    exact groupColumn_congr overlay table readOnly _
      (Layout.proper_groupedLayout.toOption_decode_sameRecord hv) m
  simp only [groupColumns_eq, bind_apply, Warned.value_bind, hmap]

end

/-- The records of both layouts are decoded fact by fact. How they are laid out matters neither to
the columns of a catalog table and to its key nor to the columns of a group. -/
theorem records_byFact :
    catalogLayout.ByFact ∧ groupedLayout.ByFact ∧
      (∀ overlay table kept columns columns' m, catalogLayout.SameColumns columns columns' →
        (columns.foldlM (keepColumn overlay table) kept m).value
          = (columns'.foldlM (keepColumn overlay table) kept m).value) ∧
      ∀ overlay table readOnly columns columns' m, groupedLayout.SameColumns columns columns' →
        (groupColumns overlay table readOnly columns m).value
          = (groupColumns overlay table readOnly columns' m).value :=
  ⟨Layout.proper_catalogLayout.byFact, Layout.proper_groupedLayout.byFact,
    fun overlay table kept _ _ m h => foldlM_keepColumn_congr overlay table h kept m,
    fun overlay table readOnly _ _ m h => groupColumns_congr overlay table h readOnly m⟩

/-- Two ways to write the columns of one table. -/
def plainColumns : Entries Json :=
  [("id", .object [("DATA_TYPE", .string "int"), ("COLUMN_KEY", .string "PRI")]),
    ("email", .array [.string "varchar", .bool true])]

def relaidColumns : Entries Json :=
  [("id", .object [("COLUMN_KEY", .string "PRI"), ("EXTRA", .string ""),
      ("dataType", .string "int")]),
    ("email", .object [("DATA_TYPE", .string "varchar"), ("IS_NULLABLE", .bool true)])]

theorem sameColumns_relaidColumns : catalogLayout.SameColumns plainColumns relaidColumns := by
  have hname : catalogLayout.Names "DATA_TYPE" .dataType :=
    ⟨"DATA_TYPE", ["dataType", "data_type"], .head _, .head _⟩
  have hother : catalogLayout.Names "dataType" .dataType :=
    ⟨"DATA_TYPE", ["dataType", "data_type"], .head _, .tail _ (.head _)⟩
  have hextra : ∀ f, ¬ catalogLayout.Names "EXTRA" f :=
    Layout.proper_catalogLayout.factOf?_eq_none_iff.1 (by decide)
  have hid : catalogLayout.Relaid [("DATA_TYPE", .string "int"), ("COLUMN_KEY", .string "PRI")]
      [("COLUMN_KEY", .string "PRI"), ("EXTRA", .string ""), ("dataType", .string "int")] :=
    .trans (.permuted (.swap _ _ []))
      (.trans (.renamed [("COLUMN_KEY", .string "PRI")] [] hname hother)
        (.extended [("COLUMN_KEY", .string "PRI")] _ hextra))
  exact .cons ⟨rfl, .object hid⟩ (.cons ⟨rfl, .array (by decide)⟩ .nil)

/-- Two ways to write the columns of one group. -/
def plainGroup : Entries Json :=
  [("title", .object [("type", .string "varchar"), ("nullable", .bool true)]),
    ("note", .array [.string "text", .null, .null, .number (.int 40)])]

def relaidGroup : Entries Json :=
  [("title", .object [("nullbale", .bool true), ("width", .null), ("type", .string "varchar")]),
    ("note", .object [("type", .string "text"), ("nullable", .null), ("default", .null),
      ("maxLength", .number (.int 40))])]

theorem sameColumns_relaidGroup : groupedLayout.SameColumns plainGroup relaidGroup := by
  have hname : groupedLayout.Names "nullable" .nullable :=
    ⟨"nullable", ["nullbale"], .tail _ (.head _), .head _⟩
  have hother : groupedLayout.Names "nullbale" .nullable :=
    ⟨"nullable", ["nullbale"], .tail _ (.head _), .tail _ (.head _)⟩
  have hwidth : ∀ f, ¬ groupedLayout.Names "width" f :=
    Layout.proper_groupedLayout.factOf?_eq_none_iff.1 (by decide)
  have htitle : groupedLayout.Relaid [("type", .string "varchar"), ("nullable", .bool true)]
      [("nullbale", .bool true), ("width", .null), ("type", .string "varchar")] :=
    .trans (.permuted (.swap _ _ []))
      (.trans (.renamed [] [("type", .string "varchar")] hname hother)
        (.extended [("nullbale", .bool true)] _ hwidth))
  exact .cons ⟨rfl, .object htitle⟩ (.cons ⟨rfl, .array (by decide)⟩ .nil)

theorem records_byFact_relaidColumns :
    (catalogLayout.SameColumns plainColumns relaidColumns ∧
      (plainColumns.foldlM (keepColumn none "users") {} (.ofCatalog [])).value
        = (relaidColumns.foldlM (keepColumn none "users") {} (.ofCatalog [])).value ∧
      ((plainColumns.foldlM (keepColumn none "users") {} (.ofCatalog [])).value.1.columns.map
        fun c => (c.name, c.scalar, c.nullable)) =
          [("id", .int, false), ("email", .string, true)] ∧
      (plainColumns.foldlM (keepColumn none "users") {} (.ofCatalog [])).value.1.key
        = some "id") ∧
    groupedLayout.SameColumns plainGroup relaidGroup ∧
      (groupColumns none "posts" false plainGroup (.ofCatalog [])).value
        = (groupColumns none "posts" false relaidGroup (.ofCatalog [])).value ∧
      ((groupColumns none "posts" false plainGroup (.ofCatalog [])).value.1.map
        fun c => (c.name, c.scalar, c.nullable, c.maxLength)) =
          [("title", .string, true, 0), ("note", .string, false, 40)] :=
  ⟨⟨sameColumns_relaidColumns,
    records_byFact.2.2.1 none "users" {} plainColumns relaidColumns (.ofCatalog [])
      sameColumns_relaidColumns,
    by decide +kernel, by decide +kernel⟩,
    sameColumns_relaidGroup,
    records_byFact.2.2.2 none "posts" false plainGroup relaidGroup (.ofCatalog [])
      sameColumns_relaidGroup,
    by decide +kernel⟩

end TableClasses.Schema
