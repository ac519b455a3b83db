import Mathlib.Data.List.Find
import Mathlib.Data.List.Permutation
import TableClasses.Proofs.Drafts
import TableClasses.Proofs.Reading

/-!
# Comments and overlays

Options given in comments do what an overlay with the same options does, and under an overlay
comments do nothing. `withComments` writes comments into a document of either shape; on drafts that
changes the comments of the sources and nothing else. A comment that spells options, in whatever
layout of blanks and order of keys, gives these options up to blanks around the type class, and a
mapper does not see those.
-/

namespace TableClasses

/-! ## Names and blanks -/

namespace ValueObject

open TableClasses.Text

theorem normalizeName_trimBlanks (type : String) :
    normalizeName (trimBlanks type) = normalizeName type := by
  unfold normalizeName
  rw [onChars, trimBlanks, toList_onChars, trim_trim]
  rfl

/-- Blanks around a type do not matter to a mapper. -/
theorem Mapper.mapping?_trimBlanks (m : Mapper) (type : String) :
    m.mapping? (trimBlanks type) = m.mapping? type := by
  unfold Mapper.mapping? Mapper.isKnown Conversions.isKnown
  rw [resolve_value, resolve_value, normalizeName_trimBlanks]

theorem Mapper.mapping?_of_isAllBlank (m : Mapper) {type : String} (h : isAllBlank type) :
    m.mapping? type = none := by
  have hname : normalizeName type = "" := by
    rw [← normalizeName_trimBlanks, Schema.trimBlanks_of_isAllBlank h]
    rfl
  unfold Mapper.mapping? Mapper.isKnown Conversions.isKnown
  rw [hname]
  rfl

end ValueObject

/-! ## Entries -/

namespace Entries

variable {α : Type}

/-- Applies a function to what is under a name. -/
def modify (es : Entries α) (name : String) (f : α → α) : Entries α :=
  es.map fun e => (e.1, if e.1 = name then f e.2 else e.2)

theorem get?_modify (es : Entries α) (name other : String) (f : α → α) :
    (es.modify name f).get? other
      = (es.get? other).map fun v => if other = name then f v else v := by
  induction es with
  | nil => rfl
  | cons e rest ih =>
    obtain ⟨k, v⟩ := e
    unfold modify at ih ⊢
    by_cases hk : k = other
    · subst hk
      simp [get?]
    · simp only [List.map_cons, get?, if_neg hk, ih]

end Entries

namespace Schema

open TableClasses.Text TableClasses.ValueObject TableClasses.ValueObject.Mapper

/-! ## Records -/

def Layout.isComment (l : Layout) (key : String) : Bool :=
  (l.fact? key).map (·.1) == some .comment

/-- The entries with another comment in the place of the one that is there. -/
def replaceComment (l : Layout) (comment : Json) (es : Entries Json) : Entries Json :=
  es.map fun e => (e.1, if l.isComment e.1 then comment else e.2)

/-- The record with this comment; if it has none, the comment goes to the end. -/
def withComment (l : Layout) (comment : Json) : Json → Json
  | .object es =>
    .object (if es.any fun e => l.isComment e.1 then replaceComment l comment es
      else es ++ [("comment", comment)])
  | v => v

theorem set_set_comment (r : Record) (v w : Json) :
    (r.set .comment v).set .comment w = r.set .comment w := rfl

theorem set_comm_comment (r : Record) {f : Fact} (hf : f ≠ .comment) (v w : Json) :
    (r.set .comment w).set f v = (r.set f v).set .comment w := by
  cases f <;> first | rfl | exact absurd rfl hf

theorem isComment_of_fact {l : Layout} {key name : String} {f : Fact}
    (h : l.fact? key = some (f, name)) : l.isComment key = (f == .comment) := by
  unfold Layout.isComment
  rw [h]
  rfl

theorem isComment_of_unknown {l : Layout} {key : String} (h : l.fact? key = none) :
    l.isComment key = false := by
  unfold Layout.isComment
  rw [h]
  rfl

theorem isComment_replaceComment (l : Layout) (comment : Json) (es : Entries Json) :
    ((replaceComment l comment es).any fun e => l.isComment e.1)
      = es.any fun e => l.isComment e.1 := by
  rw [replaceComment, List.any_map]
  rfl

section
variable (l : Layout) (comment : Json)

/-- Collecting with another comment gives the other comment. -/
theorem collect_replaceComment (seen : List Fact) (r : Record) (es : Entries Json) :
    l.collect seen (r.set .comment comment) (replaceComment l comment es)
      = (l.collect seen r es).map (·.set .comment comment) := by
  induction es generalizing seen r with
  | nil => rfl
  | cons e rest ih =>
    obtain ⟨key, v⟩ := e
    simp only [replaceComment, List.map_cons] at ih ⊢
    rw [Layout.collect, Layout.collect]
    cases hfact : l.fact? key with
    | none => exact ih seen r
    | some found =>
      obtain ⟨f, name⟩ := found
      rw [isComment_of_fact hfact]
      by_cases hseen : f ∈ seen
      · simp only [if_pos hseen]
        rfl
      · simp only [if_neg hseen]
        by_cases hf : f = .comment
        · subst hf
          exact ih _ (r.set .comment v)
        · have hother : (f == .comment) = false := beq_eq_false_iff_ne.2 hf
          simp only [hother, Bool.false_eq_true, if_false, set_comm_comment r hf]
          exact ih _ (r.set f v)

/-- A comment that comes later takes the place of one that was there before. -/
theorem collect_set_comment {seen : List Fact} (hseen : Fact.comment ∉ seen) (r : Record)
    {es : Entries Json} (hes : (es.any fun e => l.isComment e.1) = true) :
    l.collect seen (r.set .comment comment) es = l.collect seen r es := by
  induction es generalizing seen r with
  | nil => cases hes
  | cons e rest ih =>
    obtain ⟨key, v⟩ := e
    rw [Layout.collect, Layout.collect]
    cases hfact : l.fact? key with
    | none =>
      rw [List.any_cons, isComment_of_unknown hfact, Bool.false_or] at hes
      exact ih hseen r hes
    | some found =>
      obtain ⟨f, name⟩ := found
      simp only []
      by_cases hf : f = .comment
      · subst hf
        rw [set_set_comment]
      · have hother : (f == .comment) = false := beq_eq_false_iff_ne.2 hf
        rw [List.any_cons, isComment_of_fact hfact, hother, Bool.false_or] at hes
        have hseen' : Fact.comment ∉ f :: seen := by
          simpa [Ne.symm hf] using hseen
        rw [set_comm_comment r hf, ih hseen' _ hes]

/-- A comment may come after all other facts. -/
theorem collect_append_comment {key name : String} (hkey : l.fact? key = some (.comment, name))
    {seen : List Fact} (hseen : Fact.comment ∉ seen) (r : Record) {es : Entries Json}
    (hes : (es.any fun e => l.isComment e.1) = false) :
    l.collect seen r (es ++ [(key, comment)])
      = (l.collect seen r es).map (·.set .comment comment) := by
  induction es generalizing seen r with
  | nil =>
    simp only [List.nil_append, Layout.collect, hkey, if_neg hseen]
    rfl
  | cons e rest ih =>
    obtain ⟨key', v⟩ := e
    rw [List.any_cons, Bool.or_eq_false_iff] at hes
    rw [List.cons_append, Layout.collect, Layout.collect]
    cases hfact : l.fact? key' with
    | none => exact ih hseen r hes.2
    | some found =>
      obtain ⟨f, name'⟩ := found
      have hf : f ≠ .comment := by
        simpa [isComment_of_fact hfact] using hes.1
      have hseen' : Fact.comment ∉ f :: seen := by
        simpa [Ne.symm hf] using hseen
      by_cases hmem : f ∈ seen
      · simp only [if_pos hmem]
        rfl
      · simp only [if_neg hmem]
        exact ih hseen' _ hes.2

/-- A record that is no array decodes with its new comment as it did without. -/
theorem decode_withComment {name : String} (hkey : l.fact? "comment" = some (.comment, name))
    {v : Json} (hv : ∀ vs, v ≠ .array vs) :
    l.decode (withComment l comment v) = (l.decode v).map (·.set .comment comment) := by
  cases v with
  | object es =>
    unfold withComment Layout.decode
    by_cases hes : (es.any fun e => l.isComment e.1) = true
    · have hreplaced := (isComment_replaceComment l comment es).trans hes
      simp only [if_pos hes]
      rw [← collect_set_comment l comment (by simp) {} hreplaced, collect_replaceComment]
    · simp only [if_neg hes]
      exact collect_append_comment l comment hkey (by simp) {} (Bool.eq_false_iff.2 hes)
  | array vs => exact absurd rfl (hv vs)
  | _ => rfl

end

/-! ## Sources -/

/-- What a document says of a column, with another comment. -/
def Source.withComment (comment : Json) (s : Source) : Source :=
  { s with comment := textOf? comment }

theorem sourceIn_withComment {l : Layout} {name : String}
    (hkey : l.fact? "comment" = some (.comment, name)) (readOnly : Bool) (comment : Json)
    {e : String × Json} (he : ∀ vs, e.2 ≠ .array vs) :
    sourceIn l readOnly (e.1, Schema.withComment l comment e.2)
      = (sourceIn l readOnly e).map (·.withComment comment) := by
  unfold sourceIn
  rw [decode_withComment l comment hkey he]
  cases l.decode e.2 with
  | error fault => rfl
  | ok r =>
    simp only [Except.map, Option.map_map]
    rfl

/-! ## Documents -/

/-- Applies a function to the entries of an object. -/
def onEntries (f : Entries Json → Entries Json) : Json → Json
  | .object es => .object (f es)
  | v => v

section
variable (comments : String → Json)

def columnsWithComments (l : Layout) (columns : Entries Json) : Entries Json :=
  columns.map fun e => (e.1, withComment l (comments e.1) e.2)

def groupsWithComments (groups : Entries Json) : Entries Json :=
  (groups.modify "ro" (onEntries (columnsWithComments comments groupedLayout))).modify "rw"
    (onEntries (columnsWithComments comments groupedLayout))

end

section
variable (comments : String → String → Json)

def tableWithComments (e : String × Json) : String × Json :=
  (e.1,
    onEntries (·.modify "columns" (onEntries (columnsWithComments (comments e.1) catalogLayout)))
    e.2)

/-- The document with these comments, by table and column. -/
def withComments : Json → Json
  | .object root =>
    if Entries.has root "databaseTable" then
      let table := ((Entries.get? root "databaseTable").bind textOf?).getD ""
      .object (Entries.modify root "databaseCols" (onEntries (groupsWithComments (comments table))))
    else if Entries.has root "tables" then
      .object (Entries.modify root "tables" (onEntries (List.map (tableWithComments comments))))
    else .object (root.map (tableWithComments comments))
  | v => v

def Plan.withComments : Plan → Plan
  | .catalog es => .catalog (es.map (tableWithComments comments))
  | .grouped name key groups => .grouped name key (groupsWithComments (comments name) groups)

theorem get?_modify_ne (es : Entries Json) {name other : String} (f : Json → Json)
    (h : other ≠ name) : (es.modify name f).get? other = es.get? other := by
  rw [Entries.get?_modify]
  simp [h]

theorem get?_modify_self (es : Entries Json) (name : String) (f : Json → Json) :
    (es.modify name f).get? name = (es.get? name).map f := by
  rw [Entries.get?_modify]
  simp

theorem get?_map_tableWithComments (es : Entries Json) (name : String) :
    Entries.get? (es.map (tableWithComments comments)) name
      = (es.get? name).map fun v => (tableWithComments comments (name, v)).2 := by
  induction es with
  | nil => rfl
  | cons e rest ih =>
    obtain ⟨k, v⟩ := e
    by_cases hk : k = name
    · subst hk
      simp [tableWithComments, Entries.get?]
    · simpa [tableWithComments, Entries.get?, hk] using ih

theorem groupsOf_modify (root : Entries Json) (f : Entries Json → Entries Json) (hf : f [] = []) :
    groupsOf (root.modify "databaseCols" (onEntries f)) = (groupsOf root).map f := by
  unfold groupsOf
  rw [get?_modify_self]
  cases root.get? "databaseCols" with
  | none => exact congrArg Except.ok hf.symm
  | some v =>
    cases v with
    | null => exact congrArg Except.ok hf.symm
    | _ => rfl

theorem catalogEntries_modify (root : Entries Json) (f : Entries Json → Entries Json)
    (h : root.has "tables" = true) :
    catalogEntries (root.modify "tables" (onEntries f)) = (catalogEntries root).map f := by
  unfold catalogEntries
  rw [get?_modify_self]
  unfold Entries.has at h
  cases hget : root.get? "tables" with
  | none => rw [hget] at h; cases h
  | some v => cases v <;> rfl

theorem has_modify_ne (es : Entries Json) {name other : String} (f : Json → Json)
    (h : other ≠ name) : (es.modify name f).has other = es.has other := by
  unfold Entries.has
  rw [get?_modify_ne es f h]

theorem has_map_tableWithComments (es : Entries Json) (name : String) :
    Entries.has (es.map (tableWithComments comments)) name = es.has name := by
  unfold Entries.has
  rw [get?_map_tableWithComments, Option.isSome_map]

/-- Writing comments into a document leaves its plan as it is, but for the comments. -/
theorem planOf_withComments (doc : Json) :
    planOf (withComments comments doc) = (planOf doc).map (·.withComments comments) := by
  cases doc with
  | object root =>
    simp only [withComments]
    by_cases hgrouped : Entries.has root "databaseTable" = true
    · have hne : "databaseTable" ≠ "databaseCols" := by decide
      have hne' : "databaseTableId" ≠ "databaseCols" := by decide
      rw [if_pos hgrouped, planOf_grouped (shapeOf_grouped hgrouped), planOf_grouped
        (shapeOf_grouped ((has_modify_ne root _ hne).trans hgrouped)), get?_modify_ne _ _ hne,
        get?_modify_ne _ _ hne', groupsOf_modify _ _ rfl]
      cases (Entries.get? root "databaseTable").bind textOf? with
      | none => rfl
      | some name => cases groupsOf root <;> rfl
    · have hcatalog := Bool.eq_false_iff.2 hgrouped
      rw [if_neg hgrouped, planOf_catalog (shapeOf_catalog hcatalog)]
      by_cases htables : Entries.has root "tables" = true
      · have hne : "databaseTable" ≠ "tables" := by decide
        rw [if_pos htables, planOf_catalog
          (shapeOf_catalog ((has_modify_ne root _ hne).trans hcatalog)),
          catalogEntries_modify _ _ htables]
        cases catalogEntries root <;> rfl
      · have hnone : Entries.get? root "tables" = none := by
          simpa [Entries.has] using htables
        rw [if_neg htables, planOf_catalog
          (shapeOf_catalog ((has_map_tableWithComments comments root _).trans hcatalog))]
        unfold catalogEntries
        rw [get?_map_tableWithComments, hnone]
        rfl
  | _ => rfl

end

/-! ## Drafts -/

/-- The columns that a document describes, each with its table. -/
def Plan.columns : Plan → List (String × String × Json)
  | .catalog es => es.flatMap fun e => (tableColumns e.2).map fun c => (e.1, c)
  | .grouped name _ groups =>
    (groupEntries groups "ro" ++ groupEntries groups "rw").map fun c => (name, c)

/-- The draft with these comments on its columns. -/
def Draft.withComments (comments : String → Json) (d : Draft) : Draft :=
  { d with sources := d.sources.map fun s => s.withComment (comments s.name) }

/-- A record whose facts are under keys, or else no record at all. -/
def NotArray (v : Json) : Prop := ∀ vs, v ≠ .array vs

section
variable {l : Layout} {name : String} (hkey : l.fact? "comment" = some (.comment, name))
  (comments : String → Json)
include hkey

theorem sources_columnsWithComments (readOnly : Bool) {columns : Entries Json}
    (h : ∀ c ∈ columns, NotArray c.2) :
    (columnsWithComments comments l columns).filterMap (sourceIn l readOnly)
      = (columns.filterMap (sourceIn l readOnly)).map fun s => s.withComment (comments s.name) := by
  rw [columnsWithComments, List.filterMap_map, List.map_filterMap]
  refine List.filterMap_congr fun c hc => ?_
  rw [Function.comp_apply, sourceIn_withComment hkey readOnly _ (h c hc)]
  cases hs : sourceIn l readOnly c with
  | none => rfl
  | some s => rw [Option.map_some, Option.map_some, name_of_sourceIn hs]

end

theorem catalog_comment : catalogLayout.fact? "comment" = some (.comment, "COLUMN_COMMENT") := by
  decide

theorem grouped_comment : groupedLayout.fact? "comment" = some (.comment, "comment") := by
  decide

theorem keeps_withComment (comment : Json) {v : Json} (hv : NotArray v) :
    keeps (withComment catalogLayout comment v) = keeps v := by
  unfold keeps
  rw [decode_withComment catalogLayout comment catalog_comment hv]
  cases catalogLayout.decode v <;> rfl

theorem keyAfter_withComment (key : Option String) (comment : Json) {c : String × Json}
    (hc : NotArray c.2) :
    keyAfter key (c.1, withComment catalogLayout comment c.2) = keyAfter key c := by
  unfold keyAfter
  rw [decode_withComment catalogLayout comment catalog_comment hc]
  cases catalogLayout.decode c.2 <;> rfl

section
variable (comments : String → String → Json) {e : String × Json}
  (h : ∀ c ∈ tableColumns e.2, NotArray c.2)

theorem tableColumns_tableWithComments (e : String × Json) :
    tableColumns (tableWithComments comments e).2
      = columnsWithComments (comments e.1) catalogLayout (tableColumns e.2) := by
  obtain ⟨name, v⟩ := e
  cases v with
  | object fields =>
    unfold tableColumns entriesIn tableWithComments onEntries Json.field?
    simp only []
    rw [get?_modify_self]
    cases Entries.get? fields "columns" with
    | none => rfl
    | some columns => cases columns <;> rfl
  | _ => rfl

include h

theorem keptColumns_tableWithComments :
    keptColumns (tableWithComments comments e).2
      = columnsWithComments (comments e.1) catalogLayout (keptColumns e.2) := by
  unfold keptColumns
  rw [tableColumns_tableWithComments, columnsWithComments, columnsWithComments, List.filter_map]
  refine congrArg _ (List.filter_congr fun c hc => ?_)
  exact keeps_withComment _ (h c hc)

theorem keyOf_tableWithComments : keyOf (tableWithComments comments e).2 = keyOf e.2 := by
  unfold keyOf
  rw [tableColumns_tableWithComments, columnsWithComments, List.foldl_map]
  exact List.foldl_ext _ _ none fun key c hc => keyAfter_withComment key _ (h c hc)

theorem catalogDraft_withComments :
    catalogDraft (tableWithComments comments e) = (catalogDraft e).withComments (comments e.1) := by
  have hkept : ∀ c ∈ keptColumns e.2, NotArray c.2 := by
    intro c hc
    exact h c (List.mem_of_mem_filter hc)
  unfold catalogDraft Draft.withComments
  rw [keptColumns_tableWithComments comments h,
    sources_columnsWithComments catalog_comment (comments e.1) false hkept,
    keyOf_tableWithComments comments h]
  rfl

end

section
variable (comments : String → Json) (groups : Entries Json)

theorem groupEntries_of_get? {groups groups' : Entries Json} {name : String}
    (h : groups'.get? name
      = (groups.get? name).map (onEntries (columnsWithComments comments groupedLayout))) :
    groupEntries groups' name
      = columnsWithComments comments groupedLayout (groupEntries groups name) := by
  unfold groupEntries
  rw [h]
  cases groups.get? name with
  | none => rfl
  | some columns => cases columns <;> rfl

theorem groupEntries_readOnly :
    groupEntries (groupsWithComments comments groups) "ro"
      = columnsWithComments comments groupedLayout (groupEntries groups "ro") := by
  refine groupEntries_of_get? comments ?_
  rw [groupsWithComments, get?_modify_ne _ _ (by decide), get?_modify_self]

theorem groupEntries_readWrite :
    groupEntries (groupsWithComments comments groups) "rw"
      = columnsWithComments comments groupedLayout (groupEntries groups "rw") := by
  refine groupEntries_of_get? comments ?_
  rw [groupsWithComments, get?_modify_self, get?_modify_ne _ _ (by decide)]

theorem groupedDraft_withComments (name : String) (key : Option String)
    (h : ∀ c ∈ groupEntries groups "ro" ++ groupEntries groups "rw", NotArray c.2) :
    groupedDraft name key (groupsWithComments comments groups)
      = (groupedDraft name key groups).withComments comments := by
  rw [List.forall_mem_append] at h
  unfold groupedDraft Draft.withComments groupSources
  rw [groupEntries_readOnly, groupEntries_readWrite,
    sources_columnsWithComments grouped_comment comments true h.1,
    sources_columnsWithComments grouped_comment comments false h.2, ← List.map_append]
  simp only [List.any_map]
  rfl

end

/-- Comments change nothing in the drafts but the comments. -/
theorem drafts_withComments (comments : String → String → Json) {p : Plan}
    (h : ∀ c ∈ p.columns, NotArray c.2.2) :
    (p.withComments comments).drafts = p.drafts.map fun d => d.withComments (comments d.name) := by
  cases p with
  | catalog es =>
    have htable : ∀ e ∈ es, ∀ c ∈ tableColumns e.2, NotArray c.2 := fun e he c hc =>
      h (e.1, c) (List.mem_flatMap.2 ⟨e, he, List.mem_map_of_mem hc⟩)
    unfold Plan.withComments Plan.drafts
    simp only [List.filter_map, List.map_map]
    refine List.map_congr_left fun e he => ?_
    exact catalogDraft_withComments comments (htable e (List.mem_of_mem_filter he))
  | grouped name key groups =>
    have hcolumns : ∀ c ∈ groupEntries groups "ro" ++ groupEntries groups "rw", NotArray c.2 :=
      fun c hc => h (name, c) (List.mem_map_of_mem hc)
    exact congrArg (fun d => [d])
      (groupedDraft_withComments (comments name) groups name key hcolumns)

theorem mem_columns_of_mem_drafts {p : Plan} {d : Draft} (hd : d ∈ p.drafts) {s : Source}
    (hs : s ∈ d.sources) : ∃ v, (d.name, s.name, v) ∈ p.columns := by
  cases p with
  | catalog es =>
    obtain ⟨e, he, rfl⟩ := List.mem_map.1 hd
    obtain ⟨c, hc, hsource⟩ := List.mem_filterMap.1 hs
    refine ⟨c.2, List.mem_flatMap.2 ⟨e, List.mem_of_mem_filter he, ?_⟩⟩
    rw [name_of_sourceIn hsource]
    exact List.mem_map_of_mem (List.mem_of_mem_filter hc)
  | grouped name key groups =>
    obtain rfl := List.mem_singleton.1 hd
    obtain ⟨c, hc, hsource⟩ :
        ∃ c ∈ groupEntries groups "ro" ++ groupEntries groups "rw", c.1 = s.name := by
      obtain hs | hs := List.mem_append.1 hs
      · obtain ⟨c, hc, hsource⟩ := List.mem_filterMap.1 hs
        exact ⟨c, List.mem_append_left _ hc, (name_of_sourceIn hsource).symm⟩
      · obtain ⟨c, hc, hsource⟩ := List.mem_filterMap.1 hs
        exact ⟨c, List.mem_append_right _ hc, (name_of_sourceIn hsource).symm⟩
    exact ⟨c.2, List.mem_map.2 ⟨c, hc, by rw [← hsource]; rfl⟩⟩

/-! ## Options -/

/-- The object that says what the options are. -/
def optionsEntries (o : Options) : Entries Json :=
  (o.typeClass.map fun type => ("typeClass", .string type)).toList
    ++ [("readOnly", .bool o.readOnly)]

/-- The text holds an object of these options, whose keys may come in any order. -/
def Spells (text : String) (o : Options) : Prop :=
  ∃ es, Json.parse? text = some (.object es) ∧ es.Perm (optionsEntries o)

/-- The options as they are understood: a type class without blanks around it, unless it is
blank. -/
def Options.plain (o : Options) : Options :=
  { o with
    typeClass := o.typeClass.bind fun t => if isAllBlank t then none else some (trimBlanks t) }

theorem apply_typeClass (o : Options) (type : String) :
    (o.apply "typeClass" (.string type)).value
      = { o with typeClass := if isAllBlank type then none else some (trimBlanks type) } := by
  have hkey : OptionKey.ofName "typeClass" = .ok .typeClass := rfl
  unfold Options.apply typeClassOf
  rw [hkey]
  by_cases hblank : isAllBlank type <;> simp [hblank]

theorem apply_readOnly (o : Options) (b : Bool) :
    (o.apply "readOnly" (.bool b)).value = { o with readOnly := b } := by
  have hkey : OptionKey.ofName "readOnly" = .ok .readOnly := rfl
  unfold Options.apply
  rw [hkey]
  rfl

/-- Neither order of the two options matters. -/
theorem ofEntries_value {o : Options} {es : Entries Json} (h : es.Perm (optionsEntries o)) :
    (Options.ofEntries es).value = o.plain := by
  obtain ⟨typeClass, readOnly⟩ := o
  unfold Options.ofEntries
  cases typeClass with
  | none =>
    rw [List.perm_singleton.1 h]
    exact apply_readOnly {} readOnly
  | some type =>
    obtain rfl | rfl := List.perm_pair.1 h
    · simp only [List.foldlM_cons, List.foldlM_nil, Warned.value_bind, Warned.value_pure,
        apply_typeClass, apply_readOnly]
      rfl
    · simp only [List.foldlM_cons, List.foldlM_nil, Warned.value_bind, Warned.value_pure,
        apply_typeClass, apply_readOnly]
      rfl

/-- A comment that spells options gives them, with or without blanks around it. -/
theorem ofComment_value {text : String} {o : Options} (h : Spells text o) :
    (Options.ofComment text).value = o.plain := by
  obtain ⟨es, hparse, hes⟩ := h
  have htrim := Json.parse?_trimBlanks hparse
  have hne : trimBlanks text ≠ "" := by
    intro he
    rw [he] at htrim
    cases htrim
  unfold Options.ofComment
  simp only [if_neg hne, htrim]
  exact ofEntries_value hes

theorem textOf?_of_spells {text : String} {o : Options} (h : Spells text o) :
    textOf? (.string text) = some (trimBlanks text) ∧ Spells (trimBlanks text) o := by
  obtain ⟨es, hparse, hes⟩ := h
  have htrim := Json.parse?_trimBlanks hparse
  refine ⟨if_neg fun hblank => ?_, es, htrim, hes⟩
  rw [trimBlanks_of_isAllBlank hblank] at htrim
  cases htrim

/-- A column does not depend on how its type class is spelled. -/
theorem column_plain (m : Mapper) (o : Options) (s : Source) :
    s.column m o.plain = s.column m o := by
  have hclass : o.plain.typeClass.bind m.mapping? = o.typeClass.bind m.mapping? := by
    unfold Options.plain
    cases o.typeClass with
    | none => rfl
    | some type =>
      by_cases hblank : isAllBlank type
      · simp [hblank, m.mapping?_of_isAllBlank hblank]
      · simp [hblank, m.mapping?_trimBlanks type]
  unfold Source.column Source.mapping?
  rw [hclass]
  rfl

/-! ## Two runs -/

section
variable (M : Overlay) (m : Mapper) (d : Draft)

theorem table?_overlay_withComments (comments : String → Json) :
    (d.withComments comments).table? (some M) m = d.table? (some M) m := by
  unfold Draft.table? Draft.columns Draft.withComments
  rw [List.isEmpty_map, List.map_map]
  rfl

theorem table?_spelled {text : String → String}
    (h : ∀ s ∈ d.sources, Spells (text s.name) (M.column d.name s.name)) :
    (d.withComments fun c => .string (text c)).table? none m = d.table? (some M) m := by
  have hcolumns : (d.withComments fun c => .string (text c)).columns none m
      = d.columns (some M) m := by
    unfold Draft.columns Draft.withComments
    rw [List.map_map]
    refine List.map_congr_left fun s hs => ?_
    obtain ⟨htext, hspells⟩ := textOf?_of_spells (h s hs)
    have hoptions : (s.withComment (.string (text s.name))).options none d.name
        = (M.column d.name s.name).plain := by
      unfold Source.options optionsOf Source.withComment
      simp only [htext]
      exact ofComment_value hspells
    have hcolumn : ∀ o, (s.withComment (.string (text s.name))).column m o = s.column m o :=
      fun o => rfl
    rw [Function.comp_apply, hoptions, hcolumn, column_plain]
    rfl
  have hempty : (d.withComments fun c => .string (text c)).sources.isEmpty = d.sources.isEmpty :=
    List.isEmpty_map
  unfold Draft.table?
  rw [hcolumns, hempty]
  rfl

end

/-- The columns that a document describes, each with its table. -/
def documentColumns (doc : Json) : List (String × String × Json) :=
  match planOf doc with
  | .ok p => p.columns
  | .error _ => []

/-- Comments that spell the options of an overlay give the tables that the overlay gives; and under
an overlay no comment changes a table. -/
theorem normalize_withComments (M : Overlay) (m : Mapper) {doc : Json}
    (hrecords : ∀ c ∈ documentColumns doc, NotArray c.2.2) :
    (∀ text : String → String → String,
      (∀ c ∈ documentColumns doc, Spells (text c.1 c.2.1) (M.column c.1 c.2.1)) →
      (normalize none m (withComments (fun table c => .string (text table c)) doc)).map
          (fun w => w.value.1)
        = (normalize (some M) m doc).map (fun w => w.value.1)) ∧
    ∀ comments : String → String → Json,
      (normalize (some M) m (withComments comments doc)).map (fun w => w.value.1)
        = (normalize (some M) m doc).map (fun w => w.value.1) := by
  simp only [normalize_value, planOf_withComments]
  cases hplan : planOf doc with
  | error fault => exact ⟨fun _ _ => rfl, fun _ => rfl⟩
  | ok p =>
    have hdocument : documentColumns doc = p.columns := by
      unfold documentColumns
      rw [hplan]
    rw [hdocument] at hrecords ⊢
    refine ⟨fun text htext => congrArg Except.ok ?_, fun comments => congrArg Except.ok ?_⟩
    · simp only [drafts_withComments _ hrecords, List.filterMap_map]
      refine List.filterMap_congr fun d hd => table?_spelled M m d fun s hs => ?_
      obtain ⟨v, hv⟩ := mem_columns_of_mem_drafts hd hs
      exact htext _ hv
    · simp only [drafts_withComments _ hrecords, List.filterMap_map]
      exact List.filterMap_congr fun d _ => table?_overlay_withComments M m d _

/-- A column with a comment under another name and one without. -/
def clientsDocument : Json :=
  .object [("tables", .object [("clients", .object [("columns", .object
    [("id", .object [("DATA_TYPE", .string "char"), ("comment", .string "\\Other")]),
     ("name", .object [("DATA_TYPE", .string "varchar")])])])])]

def clientsOverlay : Overlay :=
  ⟨[("clients", [("id", { typeClass := some uuidInterface, readOnly := true })])]⟩

/-- The options of the overlay as texts. -/
def clientsText (_table column : String) : String :=
  if column = "id" then
    "\n\x7b\"readOnly\": true, \"typeClass\": \"Ramsey\\\\Uuid\\\\UuidInterface\"\x7d "
  else "\x7b\"readOnly\":false\x7d"

theorem normalize_clientsDocument :
    (normalize none (.ofCatalog builtinTypes)
          (withComments (fun table c => .string (clientsText table c)) clientsDocument)).map
        (fun w => w.value.1)
      = (normalize (some clientsOverlay) (.ofCatalog builtinTypes) clientsDocument).map
          (fun w => w.value.1) ∧
    (normalize (some clientsOverlay) (.ofCatalog builtinTypes) clientsDocument).map
        (fun w => w.value.1.flatMap fun t =>
          t.columns.map fun c => (c.name, c.readOnly, c.publicType))
      = .ok [("id", true, uuidInterface), ("name", false, "string")] := by
  have hcolumns : documentColumns clientsDocument =
      [("clients", "id",
          .object [("DATA_TYPE", .string "char"), ("comment", .string "\\Other")]),
        ("clients", "name", .object [("DATA_TYPE", .string "varchar")])] := by
    cbv
  have hid : Json.parse? (clientsText "clients" "id")
      = some (.object [("readOnly", .bool true), ("typeClass", .string uuidInterface)]) := by
    cbv
  have hname : Json.parse? (clientsText "clients" "name")
      = some (.object [("readOnly", .bool false)]) := by
    cbv
  refine ⟨(normalize_withComments clientsOverlay (.ofCatalog builtinTypes) ?_).1 clientsText ?_, ?_⟩
  · rw [hcolumns]
    simp [NotArray]
  · rw [hcolumns]
    simp only [List.forall_mem_cons, List.not_mem_nil, false_imp_iff, implies_true, and_true]
    exact ⟨⟨_, hid, .swap ..⟩, ⟨_, hname, .refl _⟩⟩
  · decide +kernel

end Schema

end TableClasses
