import TableClasses.Proofs.Catalogs

/-!
# Drafts of tables

Normalizing has two parts. The document alone says which tables there may be and what it tells of
each column that is kept; that is a `Draft`, and `Plan.drafts` reads it off. Only then do options
and mapper come in: `Source.column` makes the column of a source. `tables_value` puts the parts
together for both shapes of documents, so that what is proved of drafts holds of all tables.
-/

namespace TableClasses

/-! ## What a mapper makes of a type -/

namespace ValueObject.Mapper

/-- The mapping of a type that is known. -/
def mapping? (m : Mapper) (type : String) : Option Mapping :=
  if m.isKnown type then (m.resolve type).value.1 else none

theorem Alike.mapping? {m m' : Mapper} (h : m.Alike m') (type : String) :
    m.mapping? type = m'.mapping? type := by
  unfold Mapper.mapping?
  rw [h.isKnown, resolve_value, resolve_value, h.look]

end ValueObject.Mapper

namespace Schema

open TableClasses.Text TableClasses.ValueObject TableClasses.ValueObject.Mapper

/-- The category of a data type. -/
def category (m : Mapper) (dataType : String) : Scalar :=
  if m.isKnown dataType then .string else (scalarOf? dataType).getD .string

theorem category_of_alike {m m' : Mapper} (h : m.Alike m') (dataType : String) :
    category m dataType = category m' dataType := by
  unfold category
  rw [h.isKnown]

theorem scalarOf_value (dataType : String) :
    (scalarOf dataType).value = (scalarOf? dataType).getD .string := by
  unfold scalarOf
  cases scalarOf? dataType <;> rfl

theorem classify_value (dataType : String) (m : Mapper) :
    (classify dataType m).value.1 = (category m dataType, m.mapping? dataType) := by
  unfold classify category mapping?
  rw [get_bind_apply]
  by_cases hknown : m.isKnown dataType
  · simp only [hknown, if_true, bind_apply, pure_apply, resolveType_apply, Warned.value_bind,
      Warned.value_pure]
  · simp only [hknown, Bool.false_eq_true, if_false, bind_apply, lift_apply, pure_apply,
      Warned.value_bind, Warned.value_pure, scalarOf_value]

/-- A type class that has a mapping comes before the data type. -/
theorem withTypeClass_value (table column : String) (mapping : Option Mapping)
    (type : Option String) (m : Mapper) :
    (withTypeClass table column mapping type m).value.1 = (type.bind m.mapping? <|> mapping) := by
  cases type with
  | none => rfl
  | some type =>
    unfold withTypeClass mapping?
    simp only [get_bind_apply, Option.bind_some]
    by_cases hknown : m.isKnown type
    · simp only [hknown, if_true, bind_apply, pure_apply, resolveType_apply, Warned.value_bind,
        Warned.value_pure]
    · simp only [hknown, Bool.false_eq_true, if_false, bind_apply, lift_apply, pure_apply,
        Warned.value_bind, Warned.value_pure]
      rfl

/-! ## Columns of sources -/

namespace Source

/-- The options of a column: those of the overlay, or else those in its comment. -/
def options (overlay : Option Overlay) (table : String) (s : Source) : Options :=
  (optionsOf overlay table s).value

/-- The mapping of a column. -/
def mapping? (m : Mapper) (o : Options) (s : Source) : Option Mapping :=
  o.typeClass.bind m.mapping? <|> m.mapping? s.dataType

/-- The column with these options. -/
def column (m : Mapper) (o : Options) (s : Source) : Column :=
  { name := s.name
    scalar := category m s.dataType
    nullable := s.nullable
    default :=
      if (s.mapping? m o).isSome || !(category m s.dataType).hasLiterals then none else s.default
    maxLength := s.maxLength
    readOnly := s.readOnly || o.readOnly
    valueObject := s.mapping? m o }

@[simp] theorem column_name (m : Mapper) (o : Options) (s : Source) :
    (s.column m o).name = s.name := rfl

@[simp] theorem column_scalar (m : Mapper) (o : Options) (s : Source) :
    (s.column m o).scalar = category m s.dataType := by
  rw [column]

@[simp] theorem column_valueObject (m : Mapper) (o : Options) (s : Source) :
    (s.column m o).valueObject = s.mapping? m o := by
  rw [column]

/-- A default that cannot become a literal is dropped. -/
theorem column_default (m : Mapper) (o : Options) (s : Source) :
    (s.column m o).default =
      if (s.mapping? m o).isSome || !(category m s.dataType).hasLiterals then none
      else s.default := by
  rw [column]

@[simp] theorem column_readOnly (m : Mapper) (o : Options) (s : Source) :
    (s.column m o).readOnly = (s.readOnly || o.readOnly) := rfl

theorem column_of_alike {m m' : Mapper} (h : m.Alike m') (o : Options) (s : Source) :
    s.column m o = s.column m' o := by
  unfold column mapping?
  rw [category_of_alike h, h.mapping?, funext h.mapping?]

end Source

theorem columnOf_value (overlay : Option Overlay) (table : String) (s : Source) (m : Mapper) :
    (columnOf overlay table s m).value.1 = s.column m (s.options overlay table) := by
  have halike := (steady_classify s.dataType).alike m
  unfold columnOf
  simp only [bind_apply, lift_apply, pure_apply, Warned.value_bind, Warned.value_pure,
    classify_value, withTypeClass_value]
  rw [← funext halike.mapping?]
  rfl

/-! ## What a document says -/

/-- What an entry says of its column, if the column is kept. -/
def sourceIn (layout : Layout) (readOnly : Bool) (e : String × Json) : Option Source :=
  match layout.decode e.2 with
  | .ok r => (textOf? r.dataType).map fun dataType => (sourceOf e.1 dataType readOnly r).value
  | .error _ => none

theorem name_of_sourceIn {layout : Layout} {readOnly : Bool} {e : String × Json} {s : Source}
    (h : sourceIn layout readOnly e = some s) : s.name = e.1 := by
  unfold sourceIn at h
  split at h
  · obtain ⟨dataType, -, rfl⟩ := Option.map_eq_some_iff.1 h
    rfl
  · cases h

theorem readOnly_of_sourceIn {layout : Layout} {readOnly : Bool} {e : String × Json} {s : Source}
    (h : sourceIn layout readOnly e = some s) : s.readOnly = readOnly := by
  unfold sourceIn at h
  split at h
  · obtain ⟨dataType, -, rfl⟩ := Option.map_eq_some_iff.1 h
    rfl
  · cases h

/-- What a document says of a table. -/
structure Draft where
  name : String
  sources : List Source
  key : Option String
  deriving DecidableEq, Repr

def catalogDraft (e : String × Json) : Draft :=
  { name := e.1
    sources := (keptColumns e.2).filterMap (sourceIn catalogLayout false)
    key := keyOf e.2 }

/-- The columns of the group with this name. -/
def groupEntries (groups : Entries Json) (name : String) : Entries Json :=
  entriesIn (groups.get? name)

/-- What a group says of its columns. -/
def groupSources (groups : Entries Json) (name : String) (readOnly : Bool) : List Source :=
  (groupEntries groups name).filterMap (sourceIn groupedLayout readOnly)

def groupedDraft (name : String) (key : Option String) (groups : Entries Json) : Draft :=
  let sources := groupSources groups "ro" true ++ groupSources groups "rw" false
  { name, sources, key := key.filter fun k => sources.any (·.name == k) }

/-- What a document says of its tables. -/
def Plan.drafts : Plan → List Draft
  | .catalog es => (es.filter fun e => e.1 != housekeepingTable).map catalogDraft
  | .grouped name key groups => [groupedDraft name key groups]

section
variable (overlay : Option Overlay) (m : Mapper)

def Draft.columns (d : Draft) : List Column :=
  d.sources.map fun s => s.column m (s.options overlay d.name)

/-- The table of a draft, if it has columns and they make a table. -/
def Draft.table? (d : Draft) : Option Table :=
  if d.sources.isEmpty then none else (Table.make d.name (d.columns overlay m) d.key).toOption

theorem tableOf_columns_value (d : Draft) :
    (tableOf d.name (d.columns overlay m) d.key).value = d.table? overlay m := by
  rw [tableOf_value, Draft.table?, Draft.columns, List.isEmpty_map]

/-! ## Catalogs -/

theorem columnAlone_eq (table : String) (e : String × Json) :
    columnAlone overlay m table e
      = (sourceIn catalogLayout false e).map fun s => s.column m (s.options overlay table) := by
  unfold columnAlone sourceIn
  cases catalogLayout.decode e.2 with
  | error fault => rfl
  | ok r =>
    simp only [recordColumn_value, Option.map_map, columnOf_value]
    rfl

theorem tableAlone_eq (e : String × Json) :
    tableAlone overlay m e
      = ⟨e.1, (catalogDraft e).columns overlay m, (catalogDraft e).key⟩ := by
  unfold tableAlone Draft.columns catalogDraft
  rw [funext (columnAlone_eq overlay m e.1), List.map_filterMap]

theorem catalogTable_eq_draft (e : String × Json) :
    (catalogTable overlay e m).value.1
      = if e.1 != housekeepingTable then (catalogDraft e).table? overlay m else none := by
  have hmake := make_tableAlone overlay m e
  have hempty := isEmpty_tableAlone overlay m e
  rw [tableAlone_eq] at hmake hempty
  have hsources : (catalogDraft e).sources.isEmpty = (keptColumns e.2).isEmpty := by
    rw [← hempty, Draft.columns, List.isEmpty_map]
  rw [catalogTable_value, tableAlone_eq, Draft.table?, hsources]
  unfold isTable
  simp only [Bool.and_eq_true, bne_iff_ne, Bool.not_eq_true', decide_eq_true_eq, housekeepingTable]
  by_cases hname : e.1 = "phinxlog"
  · simp [hname]
  · by_cases hnone : (keptColumns e.2).isEmpty
    · simp [hname, hnone]
    · simp only [hname, hnone, ne_eq, not_false_eq_true, true_and, if_true, if_false,
        Bool.false_eq_true]
      exact hmake.symm

/-! ## Groups -/

/-- The column of one entry of a group, if it is kept. -/
def groupColumn (table : String) (readOnly : Bool) (e : String × Json) :
    Normalizing (Option Column) := do
  match ← recordOf groupedLayout table e.1 e.2 with
  | none => return none
  | some r => recordColumn overlay table e.1 readOnly r

theorem groupColumns_eq (table : String) (readOnly : Bool) (columns : Entries Json) :
    groupColumns overlay table readOnly columns = (do
      let kept ← columns.mapM (groupColumn overlay table readOnly)
      return kept.filterMap id) := rfl

theorem steady_groupColumn (table : String) (readOnly : Bool) (e : String × Json) :
    Steady (groupColumn overlay table readOnly e) := by
  unfold groupColumn
  refine (Steady.lift _).bind fun record => ?_
  cases record with
  | none => exact .pure none
  | some r => exact steady_recordColumn overlay table _ _ r

theorem groupColumn_value (table : String) (readOnly : Bool) (e : String × Json) :
    (groupColumn overlay table readOnly e m).value.1
      = (sourceIn groupedLayout readOnly e).map fun s => s.column m (s.options overlay table) := by
  unfold groupColumn sourceIn
  simp only [bind_apply, lift_apply, Warned.value_bind, Warned.value_pure, recordOf_value]
  cases groupedLayout.decode e.2 with
  | error fault => rfl
  | ok r =>
    simp only [Except.toOption, recordColumn_value, Option.map_map, columnOf_value]
    rfl

theorem groupColumns_value (table : String) (readOnly : Bool) (columns : Entries Json) :
    (groupColumns overlay table readOnly columns m).value.1
      = (columns.filterMap (sourceIn groupedLayout readOnly)).map
          fun s => s.column m (s.options overlay table) := by
  simp only [groupColumns_eq, bind_apply, pure_apply, Warned.value_bind, Warned.value_pure,
    Steady.value_mapM (steady_groupColumn overlay table readOnly), groupColumn_value,
    List.filterMap_map, List.map_filterMap]
  rfl

theorem group_value (table : String) (groups : Entries Json) (name : String) (readOnly : Bool) :
    (group overlay table groups name readOnly m).value.1
      = (groupSources groups name readOnly).map fun s => s.column m (s.options overlay table) := by
  unfold group groupSources groupEntries entriesIn
  cases groups.get? name with
  | none => rfl
  | some found =>
    cases found with
    | object columns => exact groupColumns_value overlay m table readOnly columns
    | _ => rfl

theorem steady_group (table : String) (groups : Entries Json) (name : String) (readOnly : Bool) :
    Steady (group overlay table groups name readOnly) := by
  unfold group
  split
  · exact .pure []
  · exact .pure []
  · rw [groupColumns_eq]
    exact (Steady.mapM (steady_groupColumn overlay table readOnly) _).bind fun _ => .pure _
  · exact (Steady.lift _).bind fun _ => .pure _

theorem knownKey_value (table : String) (columns : List Column) (key : Option String) :
    (knownKey table columns key).value = key.filter fun k => columns.any (·.name == k) := by
  unfold knownKey
  cases key with
  | none => rfl
  | some k => by_cases h : columns.any (·.name == k) <;> simp [h, Option.filter]

theorem any_name_columns (d : Draft) (name : String) :
    (d.columns overlay m).any (·.name == name) = d.sources.any (·.name == name) := by
  rw [Draft.columns, List.any_map]
  rfl

/-- Read-only columns come first; the second group is read with the mapper after the first. -/
theorem groups_value (name : String) (key : Option String) (groups : Entries Json) :
    (group overlay name groups "ro" true m).value.1
        ++ (group overlay name groups "rw" false
          (group overlay name groups "ro" true m).value.2).value.1
      = (groupedDraft name key groups).columns overlay m := by
  have halike := (steady_group overlay name groups "ro" true).alike m
  rw [← (steady_group overlay name groups "rw" false).value halike, group_value, group_value,
    ← List.map_append]
  rfl

theorem knownKey_groupedDraft (name : String) (key : Option String) (groups : Entries Json) :
    (knownKey name ((groupedDraft name key groups).columns overlay m) key).value
      = (groupedDraft name key groups).key := by
  rw [knownKey_value, funext (any_name_columns overlay m (groupedDraft name key groups))]
  rfl

theorem groupedTable_value (name : String) (key : Option String) (groups : Entries Json) :
    (groupedTable overlay name key groups m).value.1
      = (groupedDraft name key groups).table? overlay m := by
  have hcolumns := groups_value overlay m name key groups
  have hkey := knownKey_groupedDraft overlay m name key groups
  rw [← tableOf_columns_value]
  unfold groupedTable
  simp only [bind_apply, lift_apply, Warned.value_bind, Warned.value_pure, hcolumns]
  split
  · next hnone =>
    rw [tableOf_value, if_pos hnone]
    rfl
  · simp only [bind_apply, lift_apply, Warned.value_bind, Warned.value_pure, hkey]
    rfl

/-! ## Documents -/

theorem tables_value (p : Plan) :
    (p.tables overlay m).value.1 = p.drafts.filterMap (Draft.table? overlay m) := by
  cases p with
  | catalog es =>
    unfold Plan.tables Plan.drafts catalogTables
    simp only [bind_apply, pure_apply, Warned.value_bind, Warned.value_pure,
      Steady.value_mapM (steady_catalogTable overlay), catalogTable_eq_draft, List.filterMap_map,
      List.filterMap_filter]
    rfl
  | grouped name key groups =>
    unfold Plan.tables Plan.drafts
    simp only [bind_apply, pure_apply, Warned.value_bind, Warned.value_pure, groupedTable_value]
    cases htable : (groupedDraft name key groups).table? overlay m <;> simp [htable]

theorem normalize_value (doc : Json) :
    (normalize overlay m doc).map (fun w => w.value.1)
      = (planOf doc).map fun p => p.drafts.filterMap (Draft.table? overlay m) := by
  rw [normalize_eq]
  cases planOf doc with
  | error fault => rfl
  | ok p => exact congrArg Except.ok (tables_value overlay m p)

end

end Schema

end TableClasses
