import Mathlib.Data.List.Chain
import Mathlib.Data.List.Nodup
import Mathlib.Data.List.TakeWhile
import TableClasses.Proofs.Lineage

/-!
# Lines of ancestors

`Climbs` is the climb along the parents without a bound: it ends only where a type has no parent or
was seen before. The bound of `climb` is never reached, so that `lineage` is what this climb comes
to, over every graph of parents. `WholeLine` says the same of a list, without a climb: parents follow
in a row, no type comes twice, and nothing could follow the last one. A type that is registered
changes a line only from that type on.
-/

namespace TableClasses.ValueObject.Catalog

variable {c : Catalog} {seen line : List String} {name start : String}

/-! ## Climbing without a bound -/

/-- The climb from a type comes to a line of types that have not been seen. -/
inductive Climbs (c : Catalog) : List String → String → List String → Prop
  | back {seen : List String} {name : String} : name ∈ seen → Climbs c seen name []
  | top {seen : List String} {name : String} : name ∉ seen → c.parent? name = none →
      Climbs c seen name [name]
  | up {seen line : List String} {name parent : String} : name ∉ seen →
      c.parent? name = some parent → Climbs c (name :: seen) parent line →
      Climbs c seen name (name :: line)

theorem Climbs.unique {other : List String} (h : Climbs c seen name line)
    (h' : Climbs c seen name other) : line = other := by
  induction h generalizing other with
  | back hseen =>
    cases h' with
    | back _ => rfl
    | top hnew _ => exact absurd hseen hnew
    | up hnew _ _ => exact absurd hseen hnew
  | top hnew hnone =>
    cases h' with
    | back hseen => exact absurd hseen hnew
    | top _ _ => rfl
    | up _ hparent _ => rw [hnone] at hparent; cases hparent
  | up hnew hparent _ ih =>
    cases h' with
    | back hseen => exact absurd hseen hnew
    | top _ hnone => rw [hnone] at hparent; cases hparent
    | up _ hparent' h' =>
      obtain rfl := Option.some.inj (hparent.symm.trans hparent')
      rw [ih h']

/-- A climb with a bound is one without, as long as its fuel covers the types it has not seen. -/
theorem Climbing.climbs {fuel : Nat} (h : Climbing c fuel seen) (start : String) :
    Climbs c seen start (climb c fuel seen start) := by
  induction fuel generalizing seen start with
  | zero => exact absurd rfl h.fuel_pos
  | succ fuel ih =>
    rw [climb]
    by_cases hseen : start ∈ seen
    · rw [if_pos hseen]
      exact .back hseen
    · rw [if_neg hseen]
      cases hparent : c.parent? start with
      | none => exact .top hseen hparent
      | some parent => exact .up hseen hparent (ih (h.up hseen hparent) parent)

theorem climbs_lineage (c : Catalog) (name : String) :
    Climbs c [] (normalizeName name) (c.lineage name) :=
  (climbing_start c).climbs (normalizeName name)

theorem climbs_iff_eq_lineage :
    Climbs c [] (normalizeName name) line ↔ line = c.lineage name :=
  ⟨fun h => h.unique (climbs_lineage c name), fun h => h ▸ climbs_lineage c name⟩

/-! ## What a climb comes to -/

theorem Climbs.eq_cons (h : Climbs c seen name line) (hnew : name ∉ seen) :
    ∃ rest, line = name :: rest := by
  cases h with
  | back hseen => exact absurd hseen hnew
  | top => exact ⟨[], rfl⟩
  | up => exact ⟨_, rfl⟩

theorem Climbs.eq_of_mem_head? (h : Climbs c seen name line) {first : String}
    (hfirst : first ∈ line.head?) : first = name := by
  cases h with
  | back => cases hfirst
  | top => exact (Option.some.inj hfirst).symm
  | up => exact (Option.some.inj hfirst).symm

theorem Climbs.not_mem_seen (h : Climbs c seen name line) : ∀ n ∈ line, n ∉ seen := by
  induction h with
  | back => exact nofun
  | top hnew _ => exact List.forall_mem_singleton.2 hnew
  | up hnew _ _ ih =>
    exact List.forall_mem_cons.2 ⟨hnew, fun n hn hseen => ih n hn (List.mem_cons_of_mem _ hseen)⟩

theorem Climbs.nodup (h : Climbs c seen name line) : line.Nodup := by
  induction h with
  | back => exact List.nodup_nil
  | top => exact List.nodup_singleton _
  | up _ _ hrest ih =>
    exact List.nodup_cons.2 ⟨fun hn => hrest.not_mem_seen _ hn List.mem_cons_self, ih⟩

theorem Climbs.linked (h : Climbs c seen name line) :
    line.IsChain fun n parent => c.parent? n = some parent := by
  induction h with
  | back => exact .nil
  | top => exact .singleton _
  | up _ hparent hrest ih =>
    exact List.isChain_cons.2 ⟨fun first hfirst => hrest.eq_of_mem_head? hfirst ▸ hparent, ih⟩

theorem Climbs.last (h : Climbs c seen name line) (hnew : name ∉ seen) :
    ∃ last, line.getLast? = some last ∧
      ∀ parent, c.parent? last = some parent → parent ∈ seen ++ line := by
  induction h with
  | back hseen => exact absurd hseen hnew
  | @top seen name _ hnone =>
    refine ⟨name, rfl, fun parent hparent => ?_⟩
    rw [hnone] at hparent
    cases hparent
  | @up seen line name parent _ hparent hrest ih =>
    by_cases hseen : parent ∈ name :: seen
    · -- the climb is back at a type it has been at
      obtain rfl := hrest.unique (.back hseen)
      refine ⟨name, rfl, fun p hp => ?_⟩
      obtain rfl := Option.some.inj (hparent.symm.trans hp)
      simpa [or_comm] using hseen
    · obtain ⟨last, hlast, hends⟩ := ih hseen
      obtain ⟨rest, rfl⟩ := hrest.eq_cons hseen
      refine ⟨last, by rw [List.getLast?_cons_cons, hlast], fun p hp => ?_⟩
      exact List.perm_middle.mem_iff.2 (hends p hp)

/-- Every type of a line but the last is in the catalog, since it has a parent. -/
theorem Climbs.dropLast_subset (h : Climbs c seen name line) : line.dropLast ⊆ c.keys := by
  induction h with
  | back => exact List.nil_subset _
  | top => exact List.nil_subset _
  | @up seen line name parent _ hparent _ ih =>
    cases line with
    | nil => exact List.nil_subset _
    | cons first rest => exact List.cons_subset.2 ⟨mem_keys_of_parent? hparent, ih⟩

theorem Climbs.length_le (h : Climbs c seen name line) : line.length ≤ c.length + 1 := by
  have hnodup : line.dropLast.Nodup := h.nodup.sublist (List.dropLast_sublist line)
  have hlength := (List.subperm_of_subset hnodup h.dropLast_subset).length_le
  rw [List.length_dropLast, Entries.keys, List.length_map] at hlength
  omega

/-! ## Lines as lists -/

/-- Why no type follows the last one of a line: it is not known, it has no parent, or it has one
that is in the line. -/
inductive EndsAt (c : Catalog) (line : List String) (last : String) : Prop
  | unknown : c.has last = false → EndsAt c line last
  | root {d : TypeDecl} : c.get? last = some d → d.parent = none → EndsAt c line last
  | again {d : TypeDecl} {parent : String} : c.get? last = some d → d.parent = some parent →
      parent ∈ line → EndsAt c line last

theorem endsAt_iff {last : String} :
    EndsAt c line last ↔ ∀ parent, c.parent? last = some parent → parent ∈ line := by
  unfold parent?
  constructor
  · rintro (hunknown | ⟨hd, hnone⟩ | ⟨hd, hparent, hmem⟩) p hp
    · rw [Entries.has, Option.isSome_eq_false_iff, Option.isNone_iff_eq_none] at hunknown
      rw [hunknown] at hp
      cases hp
    · rw [hd, Option.bind_some, hnone] at hp
      cases hp
    · rw [hd, Option.bind_some, hparent] at hp
      exact Option.some.inj hp ▸ hmem
  · intro h
    cases hd : c.get? last with
    | none => exact .unknown (by rw [Entries.has, hd]; rfl)
    | some d =>
      rw [hd, Option.bind_some] at h
      cases hparent : d.parent with
      | none => exact .root hd hparent
      | some parent => exact .again hd hparent (h parent hparent)

/-- The parent that the declaration of a type gives. -/
def HasParent (c : Catalog) (name parent : String) : Prop :=
  ∃ d, c.get? name = some d ∧ d.parent = some parent

theorem hasParent_iff {parent : String} :
    c.HasParent name parent ↔ c.parent? name = some parent := Option.bind_eq_some_iff.symm

/-- A type and its ancestors as far as they go: each type is followed by its parent, none comes
twice, and none could follow the last. -/
structure WholeLine (c : Catalog) (start : String) (line : List String) : Prop where
  starts : line.head? = some start
  nodup : line.Nodup
  linked : line.IsChain c.HasParent
  ends : ∃ last, line.getLast? = some last ∧ EndsAt c line last

theorem Climbs.wholeLine (h : Climbs c [] start line) : WholeLine c start line where
  starts := by
    obtain ⟨rest, rfl⟩ := h.eq_cons List.not_mem_nil
    rfl
  nodup := h.nodup
  linked := h.linked.imp fun _ _ => hasParent_iff.2
  ends := by
    obtain ⟨last, hlast, hends⟩ := h.last List.not_mem_nil
    exact ⟨last, hlast, endsAt_iff.2 hends⟩

/-- Of two lines from one type, one begins the other, since a type has one parent. -/
theorem isBeginning_or_isBeginning {other : List String}
    (hline : line.IsChain c.HasParent) (hother : other.IsChain c.HasParent)
    (hhead : line.head? = other.head?) : line <+: other ∨ other <+: line := by
  induction line generalizing other with
  | nil => exact .inl List.nil_prefix
  | cons n line ih =>
    cases other with
    | nil => exact .inr List.nil_prefix
    | cons n' other =>
      obtain rfl := Option.some.inj hhead
      rw [List.prefix_cons_inj, List.prefix_cons_inj]
      rw [List.isChain_cons] at hline hother
      cases line with
      | nil => exact .inl List.nil_prefix
      | cons parent line =>
        cases other with
        | nil => exact .inr List.nil_prefix
        | cons parent' other =>
          have hparent := hasParent_iff.1 (hline.1 parent rfl)
          have hparent' := hasParent_iff.1 (hother.1 parent' rfl)
          refine ih hline.2 hother.2 ?_
          rw [List.head?_cons, List.head?_cons, ← hparent, hparent']

/-- A whole line is no beginning of a longer one. -/
theorem WholeLine.eq_of_isBeginning {other : List String} (h : WholeLine c start line)
    (hother : WholeLine c start other) (hbegins : line <+: other) : line = other := by
  obtain ⟨rest, rfl⟩ := hbegins
  cases rest with
  | nil => exact (List.append_nil line).symm
  | cons next rest =>
    obtain ⟨last, hlast, hends⟩ := h.ends
    obtain ⟨-, -, hlink⟩ := List.isChain_append.1 hother.linked
    have hparent := hasParent_iff.1 (hlink last hlast next rfl)
    -- what follows is the parent of the last type, which is in the line already
    exact absurd rfl ((List.nodup_append.1 hother.nodup).2.2 next (endsAt_iff.1 hends next hparent)
      next List.mem_cons_self)

theorem WholeLine.unique {other : List String} (h : WholeLine c start line)
    (hother : WholeLine c start other) : line = other := by
  obtain hbegins | hbegins := isBeginning_or_isBeginning h.linked hother.linked
    (h.starts.trans hother.starts.symm)
  · exact h.eq_of_isBeginning hother hbegins
  · exact (hother.eq_of_isBeginning h hbegins).symm

theorem wholeLine_lineage (c : Catalog) (name : String) :
    WholeLine c (normalizeName name) (c.lineage name) := (climbs_lineage c name).wholeLine

theorem nodup_keys_registerAll (types : List TypeDecl) : (registerAll [] types).keys.Nodup :=
  List.foldlRecOn (motive := fun c : Catalog => c.keys.Nodup) types register List.nodup_nil
    fun _ hc _ _ => Entries.nodup_keys_put hc _ _

/-- Over every catalog, whatever its parents are: the climb without a bound ends, and it comes to
the lineage; the lineage is the one whole line from the type, with at most one type more than there
are in the catalog. -/
theorem lineage_wholeLine (types : List TypeDecl) (name : String) :
    let c := registerAll [] types
    (∀ line, Climbs c [] (normalizeName name) line ↔ line = c.lineage name) ∧
    (∀ line, WholeLine c (normalizeName name) line ↔ line = c.lineage name) ∧
    c.keys.Nodup ∧ (c.lineage name).length ≤ c.length + 1 := by
  intro c
  refine ⟨fun line => climbs_iff_eq_lineage, fun line => ⟨fun h => ?_, ?_⟩,
    nodup_keys_registerAll types, (climbs_lineage c name).length_le⟩
  · exact h.unique (wholeLine_lineage c name)
  · rintro rfl
    exact wholeLine_lineage c name

/-- Two types that are each other's parent. -/
example : (registerAll [] [⟨"A", some "\\B", []⟩, ⟨"B", some "A", []⟩]).lineage " A" = ["A", "B"] := by
  decide

/-! ## Registering a type -/

/-- The types of a line before a given one, all of them if it does not have this. -/
def before (name : String) (line : List String) : List String := line.takeWhile (· != name)

theorem before_cons_self (name : String) (rest : List String) : before name (name :: rest) = [] :=
  List.takeWhile_cons_of_neg (by simp)

theorem before_cons_of_ne {n : String} (h : n ≠ name) (rest : List String) :
    before name (n :: rest) = n :: before name rest :=
  List.takeWhile_cons_of_pos (bne_iff_ne.2 h)

theorem before_of_not_mem (h : name ∉ line) : before name line = line :=
  List.takeWhile_eq_self_iff.2 fun _ hn => bne_iff_ne.2 fun he => h (he ▸ hn)

/-- Climbs from one type are the same before it: they have nothing there. -/
theorem Climbs.before_start {c' : Catalog} {line' : List String} (h : Climbs c seen name line)
    (h' : Climbs c' seen name line') (hnew : name ∉ seen) :
    before name line' = before name line ∧ (name ∈ line' ↔ name ∈ line) := by
  obtain ⟨rest, rfl⟩ := h.eq_cons hnew
  obtain ⟨rest', rfl⟩ := h'.eq_cons hnew
  rw [before_cons_self, before_cons_self]
  exact ⟨rfl, iff_of_true List.mem_cons_self List.mem_cons_self⟩

/-- In catalogs that differ in one type only, climbs are the same up to this type. -/
theorem Climbs.before_eq {c' : Catalog} {changed : String} {line' : List String}
    (hsame : ∀ n, n ≠ changed → c'.parent? n = c.parent? n) (h : Climbs c seen name line)
    (h' : Climbs c' seen name line') :
    before changed line' = before changed line ∧ (changed ∈ line' ↔ changed ∈ line) := by
  induction h generalizing line' with
  | back hseen =>
    rw [h'.unique (.back hseen)]
    exact ⟨rfl, .rfl⟩
  | @top seen name hnew hnone =>
    by_cases hname : name = changed
    · subst hname
      exact Climbs.before_start (.top hnew hnone) h' hnew
    · rw [h'.unique (.top hnew ((hsame name hname).trans hnone))]
      exact ⟨rfl, .rfl⟩
  | @up seen line name parent hnew hparent hrest ih =>
    by_cases hname : name = changed
    · subst hname
      exact Climbs.before_start (.up hnew hparent hrest) h' hnew
    · rw [← hsame name hname] at hparent
      cases h' with
      | back hseen => exact absurd hseen hnew
      | top _ hnone => rw [hnone] at hparent; cases hparent
      | up _ hparent' h' =>
        obtain rfl := Option.some.inj (hparent.symm.trans hparent')
        obtain ⟨hbefore, hmem⟩ := ih h'
        rw [before_cons_of_ne hname, before_cons_of_ne hname, hbefore, List.mem_cons, List.mem_cons,
          hmem]
        exact ⟨rfl, .rfl⟩

theorem parent?_register_of_ne (c : Catalog) {d : TypeDecl} (h : name ≠ normalizeName d.name) :
    (c.register d).parent? name = c.parent? name := by
  rw [parent?, get?_register_of_ne c h.symm, parent?]

theorem lineage_register_before (c : Catalog) (d : TypeDecl) (type : String) :
    before (normalizeName d.name) ((c.register d).lineage type)
        = before (normalizeName d.name) (c.lineage type) ∧
      (normalizeName d.name ∈ (c.register d).lineage type ↔
        normalizeName d.name ∈ c.lineage type) :=
  (climbs_lineage c type).before_eq (fun _ hn => parent?_register_of_ne c hn)
    (climbs_lineage (c.register d) type)

theorem lineage_register_of_not_mem (c : Catalog) {d : TypeDecl} {type : String}
    (h : normalizeName d.name ∉ c.lineage type) : (c.register d).lineage type = c.lineage type := by
  obtain ⟨hbefore, hmem⟩ := lineage_register_before c d type
  rwa [before_of_not_mem h, before_of_not_mem (mt hmem.1 h)] at hbefore

theorem findSome?_congr {α β : Type} {f g : α → Option β} {l : List α} (h : ∀ a ∈ l, f a = g a) :
    l.findSome? f = l.findSome? g := by
  induction l with
  | nil => rfl
  | cons a l ih =>
    rw [List.findSome?_cons, List.findSome?_cons, h a List.mem_cons_self,
      ih fun b hb => h b (List.mem_cons_of_mem a hb)]

theorem findMethod?_register_of_not_mem (c : Catalog) {d : TypeDecl} {type : String}
    (h : normalizeName d.name ∉ c.lineage type) (method : String) :
    (c.register d).findMethod? type method = c.findMethod? type method := by
  unfold findMethod?
  rw [lineage_register_of_not_mem c h]
  refine findSome?_congr fun n hn => ?_
  rw [get?_register_of_ne c fun he => h (he ▸ hn)]

/-- A registered type is seen by its descendants only: the lines of all other types and what is found
on them stay, and a line that comes to the type is the same below it and goes on with its parent. -/
theorem register_affects_descendants (c : Catalog) (d : TypeDecl) (type : String) :
    (d.normalize.name ∉ c.lineage type →
      (c.register d).lineage type = c.lineage type ∧
      ∀ method, (c.register d).findMethod? type method = c.findMethod? type method) ∧
    (d.normalize.name ∈ c.lineage type →
      d.normalize.name ∈ (c.register d).lineage type ∧
      before d.normalize.name ((c.register d).lineage type)
        = before d.normalize.name (c.lineage type) ∧
      ∀ parent, d.normalize.parent = some parent → parent ∈ (c.register d).lineage type) := by
  refine ⟨fun h => ⟨lineage_register_of_not_mem c h, findMethod?_register_of_not_mem c h⟩,
    fun h => ?_⟩
  obtain ⟨hbefore, hmem⟩ := lineage_register_before c d type
  refine ⟨hmem.2 h, hbefore, fun parent hparent => parent_mem_lineage (hmem.2 h) ?_⟩
  rw [parent?, get?_register_self c rfl, Option.bind_some, hparent]

/-- A type with an unknown parent, and two types that are each other's parent. -/
def danglingTypes : Catalog :=
  registerAll []
    [{ name := "User", parent := some "Model" },
     { name := "Left", parent := some "Right", methods := [{ name := "save" }] },
     { name := "Right", parent := some "Left" }]

/-- The missing type, which makes another cycle. -/
def modelDecl : TypeDecl := { name := "\\Model", parent := some "User" }

theorem register_affects_descendants_modelDecl :
    (modelDecl.normalize.name ∉ danglingTypes.lineage "Right" ∧
      (danglingTypes.register modelDecl).lineage "Right" = danglingTypes.lineage "Right" ∧
      (danglingTypes.register modelDecl).findMethod? "Right" "save"
        = danglingTypes.findMethod? "Right" "save") ∧
    (modelDecl.normalize.name ∈ danglingTypes.lineage "User" ∧
      before "Model" ((danglingTypes.register modelDecl).lineage "User") = ["User"] ∧
      "User" ∈ (danglingTypes.register modelDecl).lineage "User") := by
  have hright : modelDecl.normalize.name ∉ danglingTypes.lineage "Right" := by decide
  have huser : modelDecl.normalize.name ∈ danglingTypes.lineage "User" := by decide
  obtain ⟨hline, hmethods⟩ := (register_affects_descendants danglingTypes modelDecl "Right").1 hright
  obtain ⟨-, hbefore, hparent⟩ :=
    (register_affects_descendants danglingTypes modelDecl "User").2 huser
  exact ⟨⟨hright, hline, hmethods "save"⟩, huser, hbefore.trans (by decide),
    hparent "User" (by decide)⟩

end TableClasses.ValueObject.Catalog
