import Mathlib.Data.List.Nodup
import Mathlib.Data.Option.Basic
import Mathlib.Tactic.MkIffOfInductiveProp
import TableClasses.Schema.Format

/-!
# Documents without repeated keys

However often a text repeats a key, in the document that it holds no object has a key twice. An
object of a JSON text takes its entries as they come and keeps the last value of each key. A table of
a TOML text grows line by line; every change that is not refused keeps its keys apart (`Keeps`),
however deep below the root it is made.
-/

namespace TableClasses

/-! ## Entries -/

namespace Entries

variable {α : Type} {P : α → Prop} {es : Entries α} {name : String} {v : α}

/-- Every name is there once, and the values are all so. -/
@[mk_iff unique_iff]
structure Unique (P : α → Prop) (es : Entries α) : Prop where
  keys : es.keys.Nodup
  values : ∀ e ∈ es, P e.2

theorem mem_put {e : String × α} (h : e ∈ es.put name v) : e.2 = v ∨ e ∈ es := by
  induction es with
  | nil =>
    obtain rfl := List.mem_singleton.1 h
    exact .inl rfl
  | cons first rest ih =>
    obtain ⟨k, w⟩ := first
    unfold put at h
    split at h
    · obtain rfl | h := List.mem_cons.1 h
      · exact .inl rfl
      · exact .inr (.tail _ h)
    · obtain rfl | h := List.mem_cons.1 h
      · exact .inr (.head _)
      · exact (ih h).imp id (.tail _)

theorem erase_sublist (es : Entries α) (name : String) : (es.erase name).Sublist es := by
  induction es with
  | nil => exact .slnil
  | cons first rest ih =>
    obtain ⟨k, w⟩ := first
    unfold erase
    split
    · exact List.sublist_cons_self _ _
    · exact ih.cons_cons _

theorem mem_of_get? (h : es.get? name = some v) : (name, v) ∈ es := by
  induction es with
  | nil => cases h
  | cons first rest ih =>
    obtain ⟨k, w⟩ := first
    unfold get? at h
    split at h
    · next hk =>
      obtain rfl := Option.some.inj h
      exact hk ▸ .head _
    · exact .tail _ (ih h)

namespace Unique

theorem nil : Unique P [] := ⟨List.nodup_nil, nofun⟩

theorem of_get? (h : es.Unique P) (hv : es.get? name = some v) : P v := h.values _ (mem_of_get? hv)

theorem put (h : es.Unique P) (name : String) (hv : P v) : (es.put name v).Unique P where
  keys := nodup_keys_put h.keys name _
  values e he := by
    obtain heq | he := mem_put he
    · exact heq ▸ hv
    · exact h.values e he

theorem erase (h : es.Unique P) (name : String) : (es.erase name).Unique P where
  keys := h.keys.sublist ((es.erase_sublist name).map _)
  values e he := h.values e ((es.erase_sublist name).subset he)

theorem ofList {l : List (String × α)} (h : ∀ e ∈ l, P e.2) : (ofList l).Unique P :=
  List.foldlRecOn l _ (motive := Unique P) nil fun _ hes e he => hes.put e.1 (h e he)

end Unique

end Entries

/-! ## Readers -/

section
variable {α β : Type} {P : α → Prop} {Q : β → Prop}

/-- What was read, if anything, is so. -/
def Reads (P : α → Prop) (r : Option (α × List Char)) : Prop :=
  ∀ a rest, r = some (a, rest) → P a

theorem Reads.none : Reads P none := nofun

theorem Reads.some {a : α} (h : P a) (rest : List Char) : Reads P (some (a, rest)) := by
  intro b t he
  exact (Prod.mk.inj (Option.some.inj he)).1 ▸ h

theorem Reads.bind {r : Option (α × List Char)} {f : α × List Char → Option (β × List Char)}
    (h : Reads P r) (hf : ∀ a rest, P a → Reads Q (f (a, rest))) : Reads Q (r.bind f) := by
  intro b t he
  obtain ⟨⟨a, rest⟩, hr, hb⟩ := Option.bind_eq_some_iff.1 he
  exact hf a rest (h a rest hr) b t hb

/-- Of what is worked out on the way only the equation matters. -/
theorem Reads.bind_some {γ : Type} {x : Option γ} {f : γ → Option (β × List Char)}
    (hf : ∀ c, x = Option.some c → Reads Q (f c)) : Reads Q (x.bind f) := by
  intro b t he
  obtain ⟨c, hx, hb⟩ := Option.bind_eq_some_iff.1 he
  exact hf c hx b t hb

/-- Whatever was taken off, what is made of it is so. -/
theorem Reads.of_forall {γ : Type} {x : Option γ} {f : γ → β} {rest : γ → List Char}
    (hf : ∀ c, Q (f c)) : Reads Q (x.map fun c => (f c, rest c)) := by
  intro b t he
  obtain ⟨c, -, he⟩ := Option.map_eq_some_iff.1 he
  exact (Prod.mk.inj he).1 ▸ hf c

theorem Reads.map {r : Option (α × List Char)} (h : Reads P r) {f : α → β}
    (hf : ∀ a, P a → Q (f a)) : Reads Q (r.map fun x => (f x.1, x.2)) := by
  intro b t he
  obtain ⟨⟨a, rest⟩, hr, he⟩ := Option.map_eq_some_iff.1 he
  exact (Prod.mk.inj he).1 ▸ hf a (h a rest hr)

end

/-! ## JSON texts -/

namespace Json

/-- No object has a key twice. -/
inductive Distinct : Json → Prop
  | null : Distinct null
  | bool (b : Bool) : Distinct (bool b)
  | number (n : Number) : Distinct (number n)
  | string (s : String) : Distinct (string s)
  | array {vs : List Json} (h : ∀ v ∈ vs, Distinct v) : Distinct (array vs)
  | object {es : Entries Json} (hkeys : es.keys.Nodup) (h : ∀ e ∈ es, Distinct e.2) :
    Distinct (object es)

theorem distinct_object_iff {es : Entries Json} : Distinct (object es) ↔ es.Unique Distinct :=
  ⟨fun | .object hkeys h => ⟨hkeys, h⟩, fun h => .object h.keys h.values⟩

theorem distinct_read (fuel : Nat) :
    (∀ depth s, Reads Distinct (readValue fuel depth s)) ∧
      (∀ depth s, Reads (fun vs => ∀ v ∈ vs, Distinct v) (readItems fuel depth s)) ∧
      ∀ depth s, Reads (fun es => ∀ e ∈ es, Distinct e.2) (readEntries fuel depth s) := by
  induction fuel with
  | zero =>
    refine ⟨fun depth s => ?_, fun depth s => ?_, fun depth s => ?_⟩
    · rw [readValue]
      exact .none
    · rw [readItems]
      exact .none
    · rw [readEntries]
      exact .none
  | succ fuel ih =>
    obtain ⟨hvalue, hitems, hentries⟩ := ih
    refine ⟨fun depth s => ?_, fun depth s => ?_, fun depth s => ?_⟩
    · rw [readValue]
      split
      · exact .of_forall fun t => .null
      · exact .of_forall fun t => .bool true
      · exact .of_forall fun t => .bool false
      · exact .of_forall fun x => .string _
      · split
        · exact .none
        · split
          · exact .some (.array nofun) _
          · exact (hitems _ _).map fun vs => .array
      · split
        · exact .none
        · split
          · exact .some (distinct_object_iff.2 .nil) _
          · exact (hentries _ _).map fun es hes => distinct_object_iff.2 (.ofList hes)
      · exact .of_forall fun x => .number _
    · rw [readItems]
      refine (hvalue depth s).bind fun v t hv => ?_
      dsimp only
      split
      · exact .some (by simpa using hv) _
      · exact (hitems depth _).map fun vs hvs => List.forall_mem_cons.2 ⟨hv, hvs⟩
      · exact .none
    · rw [readEntries]
      split
      · refine .bind_some fun x _ => ?_
        dsimp only
        split
        · refine (hvalue depth _).bind fun v t hv => ?_
          dsimp only
          split
          · exact .some (by simpa using hv) _
          · exact (hentries depth _).map fun es hes => List.forall_mem_cons.2 ⟨hv, hes⟩
          · exact .none
        · exact .none
      · exact .none

theorem distinct_of_parse? {text : String} {doc : Json} (h : parse? text = some doc) :
    doc.Distinct := by
  unfold parse? at h
  dsimp only at h
  split at h
  · next v rest hread =>
    obtain rfl := Option.some.inj (Option.ite_none_right_eq_some.1 h).2
    exact (distinct_read _).1 _ _ v rest hread
  · cases h

end Json

/-! ## TOML values -/

namespace Toml

/-- No table has a key twice. -/
inductive Distinct : Toml → Prop
  | bool (b : Bool) : Distinct (bool b)
  | integer (i : Int) : Distinct (integer i)
  | float (x : Decimal.Binary64) : Distinct (float x)
  | overflow (negative : Bool) : Distinct (overflow negative)
  | string (s : String) : Distinct (string s)
  | datetime (d : Datetime) : Distinct (datetime d)
  | array {vs : List Toml} (h : ∀ v ∈ vs, Distinct v) : Distinct (array vs)
  | table {es : Entries Toml} (hkeys : es.keys.Nodup) (h : ∀ e ∈ es, Distinct e.2) :
    Distinct (table es)

theorem distinct_table_iff {es : Entries Toml} : Distinct (table es) ↔ es.Unique Distinct :=
  ⟨fun | .table hkeys h => ⟨hkeys, h⟩, fun h => .table h.keys h.values⟩

/-! ## TOML documents -/

theorem exists_of_mem_items {vs : List Toml} {js : List Json} (h : itemsToJson? vs = some js) :
    ∀ j ∈ js, ∃ v ∈ vs, v.toJson? = some j := by
  induction vs generalizing js with
  | nil =>
    obtain rfl := Option.some.inj h
    exact nofun
  | cons v vs ih =>
    obtain ⟨j, hj, h⟩ := Option.bind_eq_some_iff.1 h
    obtain ⟨js, hjs, h⟩ := Option.bind_eq_some_iff.1 h
    obtain rfl := Option.some.inj h
    refine List.forall_mem_cons.2 ⟨⟨v, .head _, hj⟩, fun j' hj' => ?_⟩
    obtain ⟨w, hw, hwj⟩ := ih hjs j' hj'
    exact ⟨w, .tail _ hw, hwj⟩

theorem exists_of_mem_entries {es : Entries Toml} {js : Entries Json}
    (h : entriesToJson? es = some js) :
    js.keys = es.keys ∧ ∀ e ∈ js, ∃ d ∈ es, d.2.toJson? = some e.2 := by
  induction es generalizing js with
  | nil =>
    obtain rfl := Option.some.inj h
    exact ⟨rfl, nofun⟩
  | cons d es ih =>
    obtain ⟨j, hj, h⟩ := Option.bind_eq_some_iff.1 h
    obtain ⟨js, hjs, h⟩ := Option.bind_eq_some_iff.1 h
    obtain rfl := Option.some.inj h
    obtain ⟨hkeys, hvalues⟩ := ih hjs
    refine ⟨congrArg (d.1 :: ·) hkeys, List.forall_mem_cons.2 ⟨⟨d, .head _, hj⟩, fun e he => ?_⟩⟩
    obtain ⟨d', hd', hj'⟩ := hvalues e he
    exact ⟨d', .tail _ hd', hj'⟩

theorem Datetime.distinct_toJson (d : Datetime) : d.toJson.Distinct :=
  .object (List.nodup_singleton _) fun _ he => List.mem_singleton.1 he ▸ .string _

/-- A table becomes an object with its keys, or a date or time that it spells out. -/
theorem Distinct.toJson? {v : Toml} (hv : v.Distinct) :
    ∀ {j : Json}, v.toJson? = some j → j.Distinct := by
  induction hv with
  | bool b =>
    rintro j ⟨⟩
    exact .bool b
  | integer i =>
    intro j h
    obtain rfl := Option.some.inj (Option.ite_none_right_eq_some.1 h).2
    exact .number _
  | float x =>
    rintro j ⟨⟩
    split
    · exact .number _
    · exact .null
  | overflow negative => exact nofun
  | string s =>
    rintro j ⟨⟩
    exact .string s
  | datetime d =>
    rintro j ⟨⟩
    exact d.distinct_toJson
  | array _ ih =>
    intro j h
    obtain ⟨js, hjs, rfl⟩ := Option.map_eq_some_iff.1 h
    refine .array fun j hj => ?_
    obtain ⟨v, hv, hvj⟩ := exists_of_mem_items hjs j hj
    exact ih v hv hvj
  | table hkeys _ ih =>
    intro j h
    unfold Toml.toJson? at h
    split at h
    · split at h
      · obtain ⟨d, -, rfl⟩ := Option.map_eq_some_iff.1 h
        exact d.distinct_toJson
      · obtain ⟨js, hjs, rfl⟩ := Option.map_eq_some_iff.1 h
        obtain ⟨hsame, hvalues⟩ := exists_of_mem_entries hjs
        refine .object (hsame ▸ hkeys) fun e he => ?_
        obtain ⟨d, hd, hdj⟩ := hvalues e he
        exact ih d hd hdj
    · obtain rfl := Option.some.inj h
      exact .object List.nodup_nil nofun

/-! ## Tables under construction -/

/-- No table has a key twice, neither one under construction nor one among its values. -/
inductive Node.Distinct : Node → Prop
  | leaf {v : Toml} (h : v.Distinct) : Distinct (.leaf v)
  | table {origin : Origin} {children : Children} (hkeys : children.keys.Nodup)
      (h : ∀ e ∈ children, Distinct e.2) : Distinct (.table origin children)
  | tables {items : List Children} (hkeys : ∀ children ∈ items, children.keys.Nodup)
      (h : ∀ children ∈ items, ∀ e ∈ children, Distinct e.2) : Distinct (.tables items)

theorem Node.distinct_table_iff {origin : Origin} {children : Children} :
    Distinct (.table origin children) ↔ children.Unique Distinct :=
  ⟨fun | .table hkeys h => ⟨hkeys, h⟩, fun h => .table h.keys h.values⟩

theorem Node.distinct_tables_iff {items : List Children} :
    Distinct (.tables items) ↔ ∀ children ∈ items, children.Unique Distinct :=
  ⟨fun | .tables hkeys h => fun children hc => ⟨hkeys children hc, h children hc⟩,
    fun h => .tables (fun children hc => (h children hc).keys) fun children hc =>
      (h children hc).values⟩

theorem childrenToToml_eq (children : Children) :
    childrenToToml children = children.map fun e => (e.1, e.2.toToml) := by
  induction children with
  | nil => rfl
  | cons e children ih => exact congrArg (_ :: ·) ih

theorem itemsToToml_eq (items : List Children) :
    itemsToToml items = items.map fun children => .table (childrenToToml children) := by
  induction items with
  | nil => rfl
  | cons children items ih => exact congrArg (_ :: ·) ih

theorem unique_childrenToToml {children : Children} (hkeys : children.keys.Nodup)
    (h : ∀ e ∈ children, e.2.toToml.Distinct) :
    Entries.Unique Distinct (childrenToToml children) := by
  rw [childrenToToml_eq]
  refine ⟨?_, List.forall_mem_map.2 h⟩
  rwa [Entries.keys, List.map_map]

theorem Node.Distinct.toToml {n : Node} (hn : n.Distinct) : n.toToml.Distinct := by
  induction hn with
  | leaf h => exact h
  | table hkeys _ ih => exact Toml.distinct_table_iff.2 (unique_childrenToToml hkeys ih)
  | tables hkeys _ ih =>
    refine .array ?_
    rw [itemsToToml_eq]
    exact List.forall_mem_map.2 fun children hc =>
      Toml.distinct_table_iff.2 (unique_childrenToToml (hkeys children hc) (ih children hc))

theorem unique_toToml {children : Children} (h : children.Unique Node.Distinct) :
    Entries.Unique Distinct (childrenToToml children) :=
  unique_childrenToToml h.keys fun e he => (h.values e he).toToml

/-- The change keeps the keys apart where it is not refused. -/
def Keeps (change : Change) : Prop :=
  ∀ origin (children changed : Children), children.Unique Node.Distinct →
    change origin children = some changed → changed.Unique Node.Distinct

theorem keeps_openTable (key : String) : Keeps (openTable key) := by
  intro origin children changed hchildren h
  unfold openTable at h
  split at h
  · obtain rfl := Option.some.inj h
    exact hchildren.put key (Node.distinct_table_iff.2 .nil)
  · next sub hget =>
    obtain rfl := Option.some.inj h
    have hsub := Node.distinct_table_iff.1 (hchildren.of_get? hget)
    exact (hchildren.erase key).put key (Node.distinct_table_iff.2 hsub)
  · cases h

theorem keeps_openItem (key : String) : Keeps (openItem key) := by
  intro origin children changed hchildren h
  unfold openItem at h
  split at h
  · obtain rfl := Option.some.inj h
    exact hchildren.put key (Node.distinct_tables_iff.2 (List.forall_mem_singleton.2 .nil))
  · next items hget =>
    obtain rfl := Option.some.inj h
    have hitems := Node.distinct_tables_iff.1 (hchildren.of_get? hget)
    refine hchildren.put key (Node.distinct_tables_iff.2 ?_)
    exact List.forall_mem_append.2 ⟨hitems, List.forall_mem_singleton.2 .nil⟩
  · cases h

theorem keeps_setValue (afterDots : Bool) (key : String) {v : Toml} (hv : v.Distinct) :
    Keeps (setValue afterDots key v) := by
  intro origin children changed hchildren h
  obtain rfl := Option.some.inj (Option.ite_none_left_eq_some.1 h).2
  exact hchildren.put key (.leaf hv)

/-- By induction on the path: the table that is changed stands in its parent again. -/
theorem Keeps.descend {change : Change} (hchange : Keeps change) (step : Origin)
    (path : List String) : Keeps (descend step change path) := by
  induction path with
  | nil => exact hchange
  | cons key path ih =>
    intro origin children changed hchildren h
    unfold Toml.descend at h
    split at h
    · obtain ⟨sub, hsub, rfl⟩ := Option.map_eq_some_iff.1 h
      exact hchildren.put key (Node.distinct_table_iff.2 (ih _ _ _ .nil hsub))
    · next old hget =>
      obtain ⟨sub, hsub, rfl⟩ := Option.map_eq_some_iff.1 (Option.ite_none_left_eq_some.1 h).2
      have hold := Node.distinct_table_iff.1 (hchildren.of_get? hget)
      exact hchildren.put key (Node.distinct_table_iff.2 (ih _ _ _ hold hsub))
    · next items hget =>
      obtain ⟨sub, hsub, rfl⟩ := Option.map_eq_some_iff.1 h
      have hitems := Node.distinct_tables_iff.1 (hchildren.of_get? hget)
      have hlast : Entries.Unique Node.Distinct (items.getLast?.getD []) := by
        cases hitem : items.getLast? with
        | none => exact .nil
        | some item => exact hitems item (List.mem_of_getLast? hitem)
      refine hchildren.put key (Node.distinct_tables_iff.2 (List.forall_mem_append.2 ⟨?_, ?_⟩))
      · exact fun item hitem => hitems item ((List.dropLast_sublist items).subset hitem)
      · exact List.forall_mem_singleton.2 (ih _ _ _ hlast hsub)
    · cases h

theorem keeps_setDotted (path : List String) (key : String) {v : Toml} (hv : v.Distinct) :
    Keeps (setDotted path key v) := (keeps_setValue _ key hv).descend .dotted path

/-! ## TOML texts -/

theorem distinct_of_floatOf? {s : List Char} {v : Toml} (h : floatOf? s = some v) :
    v.Distinct := by
  unfold floatOf? at h
  dsimp only at h
  split at h
  · obtain rfl := Option.some.inj h
    exact .float _
  · split at h
    · obtain rfl := Option.some.inj h
      exact .float _
    · obtain ⟨x, -, rfl⟩ := Option.map_eq_some_iff.1 h
      unfold ofNearest
      split
      · exact .overflow _
      · exact .float _

theorem distinct_of_scalarOf? {s : List Char} {v : Toml} (h : scalarOf? s = some v) :
    v.Distinct := by
  unfold scalarOf? at h
  split at h
  · obtain rfl := Option.some.inj h
    exact .bool true
  split at h
  · obtain rfl := Option.some.inj h
    exact .bool false
  split at h
  · obtain rfl := Option.some.inj h
    exact .integer _
  split at h
  · next hfloat =>
    obtain rfl := Option.some.inj h
    exact distinct_of_floatOf? hfloat
  · obtain ⟨d, -, rfl⟩ := Option.map_eq_some_iff.1 h
    exact .datetime d

theorem distinct_readScalar (s : List Char) : Reads Distinct (readScalar s) := by
  have hword : ∀ word rest, Reads Distinct ((scalarOf? word).map (·, rest)) := by
    intro word rest v t h
    obtain ⟨w, hw, he⟩ := Option.map_eq_some_iff.1 h
    exact (Prod.mk.inj he).1 ▸ distinct_of_scalarOf? hw
  unfold readScalar
  dsimp only
  split
  · split
    · exact hword _ _
    · exact hword _ _
  · exact hword _ _

theorem distinct_read (fuel : Nat) :
    (∀ depth s, Reads Distinct (readValue fuel depth s)) ∧
      (∀ depth s, Reads (fun vs => ∀ v ∈ vs, Distinct v) (readItems fuel depth s)) ∧
      ∀ depth (children : Children) s, children.Unique Node.Distinct →
        Reads (Entries.Unique Node.Distinct) (readPairs fuel depth children s) := by
  induction fuel with
  | zero =>
    refine ⟨fun depth s => ?_, fun depth s => ?_, fun depth children s _ => ?_⟩
    · rw [readValue]
      exact .none
    · rw [readItems]
      exact .none
    · rw [readPairs]
      exact .none
  | succ fuel ih =>
    obtain ⟨hvalue, hitems, hpairs⟩ := ih
    refine ⟨fun depth s => ?_, fun depth s => ?_, fun depth children s hchildren => ?_⟩
    · unfold readValue
      split
      · split
        · exact .none
        · exact (hitems _ _).map fun vs => .array
      · split
        · exact .none
        · exact (hpairs _ [] _ .nil).map fun children hc =>
            distinct_table_iff.2 (unique_toToml hc)
      · exact .of_forall fun x => .string _
      · exact .of_forall fun x => .string _
      · exact distinct_readScalar _
    · rw [readItems]
      refine .bind_some fun t _ => ?_
      dsimp only
      split
      · exact .some nofun _
      · refine (hvalue depth _).bind fun v t hv => ?_
        refine .bind_some fun t _ => ?_
        dsimp only
        split
        · exact (hitems depth _).map fun vs hvs => List.forall_mem_cons.2 ⟨hv, hvs⟩
        · exact .some (List.forall_mem_singleton.2 hv) _
        · exact .none
    · rw [readPairs]
      refine .bind_some fun t _ => ?_
      dsimp only
      split
      · exact .some hchildren _
      · refine .bind_some fun x _ => ?_
        refine .bind_some fun t _ => ?_
        split
        · refine .bind_some fun t _ => ?_
          refine (hvalue depth _).bind fun v t hv => ?_
          refine .bind_some fun changed hchanged => ?_
          have hnow := keeps_setDotted _ _ hv _ _ _ hchildren hchanged
          refine .bind_some fun t _ => ?_
          split
          · exact hpairs depth _ _ hnow
          · exact .some hnow _
          · exact .none
        · exact .none

section
variable {fuel : Nat} {draft : Draft} (hdraft : draft.root.Unique Node.Distinct)

include hdraft

theorem unique_readHeader (isItem : Bool) (s : List Char) :
    Reads (fun d => d.root.Unique Node.Distinct) (readHeader fuel draft isItem s) := by
  have hchange : ∀ key, Keeps (if isItem then openItem key else openTable key) := by
    intro key
    split
    · exact keeps_openItem key
    · exact keeps_openTable key
  unfold readHeader
  refine .bind_some fun x _ => ?_
  refine .bind_some fun root hroot => ?_
  have hdone := (hchange _).descend _ _ _ _ _ hdraft hroot
  dsimp only
  split
  · refine .some ?_ _
    exact hdone
  · refine .some ?_ _
    exact hdone
  · exact .none

theorem unique_readPair (s : List Char) :
    Reads (fun d => d.root.Unique Node.Distinct) (readPair fuel draft s) := by
  unfold readPair
  refine .bind_some fun x _ => ?_
  dsimp only
  split
  · refine ((distinct_read fuel).1 _ _).bind fun v t hv => ?_
    refine .bind_some fun root hroot => ?_
    refine .some ?_ _
    exact (keeps_setDotted _ _ hv).descend _ _ _ _ _ hdraft hroot
  · exact .none

end

/-- By induction on the fuel: each line hands a draft without repeated keys to the next. -/
theorem unique_readLines (fuel : Nat) {draft : Draft}
    (hdraft : draft.root.Unique Node.Distinct) {s : List Char} {done : Draft}
    (h : readLines fuel draft s = some done) : done.root.Unique Node.Distinct := by
  induction fuel generalizing draft s with
  | zero => cases h
  | succ fuel ih =>
    unfold readLines at h
    split at h
    · exact Option.some.inj h ▸ hdraft
    · obtain ⟨⟨next, t⟩, hnext, h⟩ := Option.bind_eq_some_iff.1 h
      obtain ⟨u, -, h⟩ := Option.bind_eq_some_iff.1 h
      exact ih (unique_readHeader hdraft _ _ next t hnext) h
    · obtain ⟨⟨next, t⟩, hnext, h⟩ := Option.bind_eq_some_iff.1 h
      obtain ⟨u, -, h⟩ := Option.bind_eq_some_iff.1 h
      exact ih (unique_readHeader hdraft _ _ next t hnext) h
    · split at h
      · obtain ⟨u, -, h⟩ := Option.bind_eq_some_iff.1 h
        exact ih hdraft h
      · obtain ⟨⟨next, t⟩, hnext, h⟩ := Option.bind_eq_some_iff.1 h
        obtain ⟨u, -, h⟩ := Option.bind_eq_some_iff.1 h
        exact ih (unique_readPair hdraft _ next t hnext) h

theorem unique_of_parse? {text : String} {es : Entries Toml} (h : parse? text = some es) :
    es.Unique Distinct := by
  obtain ⟨draft, hdraft, rfl⟩ := Option.map_eq_some_iff.1 h
  exact unique_toToml (unique_readLines _ .nil hdraft)

end Toml

/-! ## Documents -/

theorem Schema.Format.distinct_of_parse? {f : Format} {text : String} {doc : Json}
    (h : f.parse? text = some doc) : doc.Distinct := by
  cases f with
  | json => exact Json.distinct_of_parse? h
  | toml =>
    obtain ⟨es, hes, hdoc⟩ := Option.bind_eq_some_iff.1 h
    exact (Toml.distinct_table_iff.2 (Toml.unique_of_parse? hes)).toJson? hdoc

end TableClasses
