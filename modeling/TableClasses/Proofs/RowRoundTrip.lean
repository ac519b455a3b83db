import TableClasses.Proofs.BodyLines
import TableClasses.Proofs.Conversions
import TableClasses.Proofs.Tables

/-!
# Rows through an object and back

The object that `fromRow` makes holds the value of each read-write column in that column's field,
whatever setters do to the read-only ones, and `toDatabaseArray` takes the same values back out.
This is the case for every outline that is built of expressions which take values inside and back,
and so for the data class of every table.
-/

namespace TableClasses.Classes

open TableClasses.Text TableClasses.Code TableClasses.ValueObject

section
variable {V : Type} [DecidableEq V] {p : Platform V} {k : Kinds V}

variable (p k) in
/-- An outline whose expressions take the values of a table inside and back. -/
def Conveys (t : Table) : Imports → Outline → Prop :=
  Built t (fun i c e => e.Hydrates p k i c) fun i c e => e.Dehydrates p k i c

/-! ## Runs -/

theorem mapM_of_forall₂ {α β γ : Type} {R : α → β → Prop} {f : β → Option γ} {g : α → γ}
    {l : List α} {bs : List β} (h : List.Forall₂ R l bs)
    (hf : ∀ a ∈ l, ∀ b, R a b → f b = some (g a)) : bs.mapM f = some (l.map g) := by
  induction h with
  | nil => rfl
  | cons hb _ ih =>
    rw [List.mapM_cons, hf _ List.mem_cons_self _ hb,
      ih fun a ha => hf a (List.mem_cons_of_mem _ ha)]
    rfl

variable (p) in
/-- The value that a row gives to a column. -/
def rowValue (row : Entries V) (c : Column) : V := (row.get? c.name).getD p.null

omit [DecidableEq V] in
theorem get?_of_fitsRow {columns : List Column} {row : Entries V} {c : Column}
    (h : p.FitsRow k columns row) (hc : c ∈ columns) :
    row.get? c.name = some (rowValue p row c) ∧ p.Fits k c (rowValue p row c) := by
  obtain ⟨v, hget, hfits⟩ := h c hc
  unfold rowValue
  rw [hget]
  exact ⟨rfl, hfits⟩

/-- The object holds the values of these columns. -/
def Holds (p : Platform V) (columns : List Column) (row object : Entries V) : Prop :=
  ∀ c ∈ columns, object.get? c.field = some (p.inside c (rowValue p row c))

/-! ## The class of an outline -/

section
variable {o : Outline} (className : String)

omit [DecidableEq V] in
/-- All parameters are promoted. -/
theorem construct_declaration {values : List V} (h : o.parameters.length = values.length) :
    construct (o.declaration className) values
      = some (Entries.ofList ((o.parameters.map (·.1.column.field)).zip values)) := by
  have hmethod : (o.declaration className).method? "__construct" = some o.constructor := rfl
  have hlength : o.constructor.params.length = values.length := by
    rw [Outline.constructor, List.length_map, h]
  have hpromoted : ∀ e ∈ o.constructor.params.zip values, e.1.promoted.isSome = true := by
    intro e he
    obtain ⟨m, -, hm⟩ := List.mem_map.1 (List.of_mem_zip he).1
    rw [← hm]
    rfl
  rw [construct, hmethod, Option.bind_some, if_pos ⟨rfl, hlength⟩, List.filter_eq_self.2 hpromoted,
    Outline.constructor, List.zip_map_left, List.zip_map_left, List.map_map]
  rfl

theorem head?_asciiLower_setter (c : Column) :
    (asciiLower c.setter).toList.head? = some 's' := by
  have hset : asciiLower "set" = "set" := by decide
  rw [Column.setter, asciiLower_append, hset]
  simp

theorem head?_asciiLower_getter (c : Column) :
    (asciiLower c.getter).toList.head? = some 'g' := by
  have hget : asciiLower "get" = "get" := by decide
  rw [Column.getter, asciiLower_append, hget]
  simp

/-- Only setters are called by the names of setters. -/
theorem eq_setter_of_mem_methods {m : Method} (hm : m ∈ o.methods) {c : Column}
    (h : asciiLower m.name = asciiLower c.setter) :
    ∃ e ∈ o.readOnly, m = setter e.1.column e.2.1 := by
  have hhead : (asciiLower m.name).toList.head? = some 's' := by
    rw [h]
    exact head?_asciiLower_setter c
  unfold Outline.methods at hm
  obtain hm | hm := List.mem_append.1 hm
  · obtain hm | hm := List.mem_append.1 hm
    · have hname : m.name ∈ List.map Method.name _ := List.mem_map_of_mem hm
      rw [Outline.map_name_rowMethods] at hname
      have hother : ∀ s ∈ ["__construct", "fromArray", "fromRow", "toArray", "toDatabaseArray"],
          (asciiLower s).toList.head? ≠ some 's' := by
        decide
      exact absurd hhead (hother _ hname)
    · obtain ⟨e, -, rfl⟩ := List.mem_map.1 hm
      exact absurd ((head?_asciiLower_getter e.column).symm.trans hhead) (by decide)
  · obtain ⟨e, he, hm⟩ := List.mem_flatMap.1 hm
    obtain rfl | hm := List.mem_cons.1 hm
    · exact ⟨e, he, rfl⟩
    · obtain rfl := List.mem_singleton.1 hm
      exact absurd ((head?_asciiLower_getter e.1.column).symm.trans hhead) (by decide)

theorem storesIn?_setter (c : Column) (type : TypeRef) :
    storesIn? (setter c type) = some c.field := by
  have hparams : (setter c type).params = [{ name := c.field, type := some type }] := rfl
  have hstatic : (setter c type).isStatic = false := rfl
  unfold storesIn?
  simp only [hparams, hstatic, body_setter, true_and, if_true]

omit [DecidableEq V] in
/-- A call by the name of a setter stores the value in a read-only field. -/
theorem callSetter_declaration {c : Column} (hc : c ∈ o.readOnly.map (·.1.column))
    (object : Entries V) (v : V) :
    ∃ e ∈ o.readOnly, callSetter (o.declaration className) object c.setter v
      = some (object.put e.1.column.field v) := by
  obtain ⟨e, he, rfl⟩ := List.mem_map.1 hc
  have hmem : setter e.1.column e.2.1 ∈ o.methods := by
    unfold Outline.methods
    exact List.mem_append_right _ (List.mem_flatMap.2 ⟨e, he, List.mem_cons_self⟩)
  have hname : (setter e.1.column e.2.1).name = e.1.column.setter := rfl
  have hfound : (o.methods.find? fun m => asciiLower m.name == asciiLower e.1.column.setter).isSome
      = true := by
    refine List.find?_isSome.2 ⟨_, hmem, ?_⟩
    rw [hname, beq_self_eq_true]
  obtain ⟨m, hm⟩ := Option.isSome_iff_exists.1 hfound
  have hsame := List.find?_some hm
  rw [beq_iff_eq] at hsame
  obtain ⟨e', he', rfl⟩ := eq_setter_of_mem_methods (List.mem_of_find?_eq_some hm) hsame
  refine ⟨e', he', ?_⟩
  have hmethods : (o.declaration className).methods = o.methods := rfl
  rw [callSetter, hmethods, hm, Option.bind_some, storesIn?_setter, Option.map_some]

end

/-! ## The file of a table -/

section
variable {name : String} {columns : List Column} {key : Option String} {t : Table}
  {i : Imports} {o : Outline} {row : Entries V} {className : String}
  {layout : List String → List String}

theorem map_column_of_forall₂ {α : Type} {cs : List Column} {ms : List (Member × α)}
    (h : List.Forall₂ (fun c m => m.1.column = c) cs ms) : ms.map (·.1.column) = cs := by
  induction h with
  | nil => rfl
  | cons hc _ ih => rw [List.map_cons, ih, hc]

/-- Arguments find their parameters by position. -/
theorem construct_holds (ht : Table.make name columns key = .ok t)
    (hparameters : List.Forall₂ (fun c m => m.1.column = c) t.readWrite o.parameters) :
    ∃ object, construct (o.declaration className)
        (t.readWrite.map fun c => p.inside c (rowValue p row c)) = some object ∧
      Holds p t.readWrite row object := by
  have hfields : o.parameters.map (·.1.column.field) = t.readWrite.map Column.field := by
    rw [← map_column_of_forall₂ hparameters, List.map_map]
    rfl
  have hnodup : (t.readWrite.map Column.field).Nodup :=
    (Table.nodup_fields ht).sublist (List.filter_sublist.map _)
  rw [construct_declaration className (by rw [List.length_map, hparameters.length_eq]), hfields,
    List.zip_map']
  refine ⟨_, rfl, fun c hc => ?_⟩
  rw [Entries.ofList_of_nodup (by rw [List.map_map]; exact hnodup)]
  refine Entries.get?_of_mem (by unfold Entries.keys; rw [List.map_map]; exact hnodup) ?_
  exact List.mem_map.2 ⟨c, hc, rfl⟩

/-- The step of the setters: one of them changes no read-write field. -/
theorem callSetter_holds (ht : Table.make name columns key = .ok t)
    (hreadOnly : List.Forall₂ (fun c m => m.1.column = c) t.readOnly o.readOnly)
    {c : Column} (hc : c ∈ t.readOnly) {object : Entries V}
    (h : Holds p t.readWrite row object) (v : V) :
    ∃ object', callSetter (o.declaration className) object c.setter v = some object' ∧
      Holds p t.readWrite row object' := by
  have hcolumns := map_column_of_forall₂ hreadOnly
  obtain ⟨e, he, hcall⟩ :=
    callSetter_declaration className (o := o) (by rw [hcolumns]; exact hc) object v
  have hreadOnly' : e.1.column ∈ t.readOnly := hcolumns ▸ List.mem_map_of_mem he
  refine ⟨_, hcall, fun d hd => ?_⟩
  rw [Entries.get?_put_of_ne _ _ (Table.field_ne_of_readOnly ht hd hreadOnly')]
  exact h d hd

/-- The run of the setters. -/
theorem foldlM_setters_holds (ht : Table.make name columns key = .ok t)
    (hreadOnly : List.Forall₂ (fun c m => m.1.column = c) t.readOnly o.readOnly)
    (hrow : p.FitsRow k t.columns row) {cs : List Column} {setters : List (String × Expression)}
    (hcs : ∀ c ∈ cs, c ∈ t.readOnly)
    (hsetters : List.Forall₂ (fun c e => e.1 = c.setter ∧ e.2.Hydrates p k i c) cs setters)
    {object : Entries V} (h : Holds p t.readWrite row object) :
    ∃ object',
      setters.foldlM (runSetter p { imports := i, declared := o.declaration className } row) object
        = some object' ∧
      Holds p t.readWrite row object' := by
  induction hsetters generalizing object with
  | nil => exact ⟨object, rfl, h⟩
  | @cons c e _ _ he _ ih =>
    have hc := hcs c List.mem_cons_self
    obtain ⟨hget, hfits⟩ := get?_of_fitsRow hrow (List.mem_of_mem_filter hc)
    obtain ⟨object', hcall, h'⟩ :=
      callSetter_holds ht hreadOnly hc h (p.inside c (rowValue p row c))
    obtain ⟨object'', hfold, h''⟩ := ih (fun d hd => hcs d (List.mem_cons_of_mem c hd)) h'
    refine ⟨object'', ?_, h''⟩
    rw [List.foldlM_cons, runSetter, he.2 row _ hget hfits, he.1, Option.bind_some, hcall]
    exact hfold

theorem givesObject_holds (ht : Table.make name columns key = .ok t) (ho : Conveys p k t i o)
    (hcode : RowCode layout (o.declaration className) o.rowArguments o.rowSetters)
    (hrow : p.FitsRow k t.columns row) :
    ∃ object,
      GivesObject p layout { imports := i, declared := o.declaration className } row object ∧
      Holds p t.readWrite row object := by
  have harguments : o.rowArguments.mapM (Expression.eval p i (.ofRow row))
      = some (t.readWrite.map fun c => p.inside c (rowValue p row c)) := by
    refine mapM_of_forall₂ ho.rowArguments fun c hc e he => ?_
    obtain ⟨hget, hfits⟩ := get?_of_fitsRow hrow (List.mem_of_mem_filter hc)
    exact he row _ hget hfits
  obtain ⟨object, hobject, hholds⟩ : ∃ object, construct (o.declaration className) _ = some object ∧
      Holds p t.readWrite row object := construct_holds ht ho.parameters
  obtain ⟨object', hsetters, hholds'⟩ := foldlM_setters_holds ht ho.readOnly hrow
    (fun c hc => hc) ho.rowSetters hholds
  exact ⟨object', ⟨_, _, _, object, hcode, harguments, hobject, hsetters⟩, hholds'⟩

theorem givesRow_of_holds (ht : Table.make name columns key = .ok t) (ho : Conveys p k t i o)
    (hcode : DatabaseCode layout (o.declaration className) o.databaseEntries)
    (hrow : p.FitsRow k t.columns row) {object : Entries V} (h : Holds p t.readWrite row object) :
    GivesRow p layout { imports := i, declared := o.declaration className } object
      (t.readWrite.map fun c => (c.name, rowValue p row c)) := by
  have hentries : o.databaseEntries.mapM
        (evalEntry p { imports := i, declared := o.declaration className } object)
      = some (t.readWrite.map fun c => (c.name, rowValue p row c)) := by
    refine mapM_of_forall₂ ho.databaseEntries fun c hc e he => ?_
    obtain ⟨-, hfits⟩ := get?_of_fitsRow hrow (List.mem_of_mem_filter hc)
    rw [evalEntry, he.2 object _ hfits (h c hc), he.1]
    rfl
  have hnames : ((t.readWrite.map fun c => (c.name, rowValue p row c)).map (·.1)).Nodup := by
    rw [List.map_map]
    exact (Table.nodup_names ht).sublist (List.filter_sublist.map _)
  refine ⟨_, hcode, ?_⟩
  rw [hentries, Option.map_some, Entries.ofList_of_nodup hnames]

end

variable (p) in
/-- A row comes back as this row from the object that `fromRow` makes of it. -/
def ComesBack (layout : List String → List String) (f : File) (row row' : Entries V) : Prop :=
  ∃ object, GivesObject p layout f row object ∧ GivesRow p layout f object row'

theorem comesBack_dataFile {name : String} {columns : List Column} {key : Option String} {t : Table}
    (ht : Table.make name columns key = .ok t) (names : Names) (r : Rendering)
    (hp : p.Lawful k r.datetimeFormat) {row : Entries V} (hrow : p.FitsRow k t.columns row)
    {layout : List String → List String} (hlaid : (dataOutline t names r).1.Laid layout) :
    ComesBack p layout (dataFile t names r).value row
      (t.readWrite.map fun c => (c.name, rowValue p row c)) := by
  have hconveys : Conveys p k t (dataOutline t names r).2 (dataOutline t names r).1 :=
    built_dataOutline (fun c _ => lasting_hydrate hp c) fun c _ => lasting_dehydrate hp c
  obtain ⟨-, hrowCode, hdatabaseCode⟩ := hlaid.codes_dataOutline (names.className .data)
  obtain ⟨object, hgives, hholds⟩ := givesObject_holds ht hconveys hrowCode hrow
  rw [dataFile_value]
  exact ⟨object, hgives, givesRow_of_holds ht hconveys hdatabaseCode hrow hholds⟩

end

/-- In the file of the data class of a table, a row that fits the table goes through an object and
comes back without its read-only columns. What is run is what the methods of the class say, in lines
of their own unless a name of a value object has a line break. -/
theorem row_round_trip {name : String} {columns : List Column} {key : Option String} {t : Table}
    (ht : Table.make name columns key = .ok t) (hnames : ∀ c ∈ t.columns, '\n' ∉ c.name.toList)
    (names : Names) (r : Rendering) (hformat : '\n' ∉ r.datetimeFormat.toList)
    {V : Type} [DecidableEq V] (p : Platform V) (k : Kinds V) (hp : p.Lawful k r.datetimeFormat)
    (row : Entries V) (hrow : p.FitsRow k t.columns row) :
    ComesBack p cut (dataFile t names r).value row
        (t.readWrite.map fun c => (c.name, (row.get? c.name).getD p.null)) ∧
      ((∀ c ∈ t.columns, ∀ m ∈ c.valueObject, PlainMapping m) →
        ComesBack p id (dataFile t names r).value row
          (t.readWrite.map fun c => (c.name, (row.get? c.name).getD p.null))) := by
  refine ⟨comesBack_dataFile ht names r hp hrow (Outline.laid_cut _), fun hmappings => ?_⟩
  have hplain : ∀ c ∈ t.columns, PlainColumn c := fun c hc => ⟨hnames c hc, hmappings c hc⟩
  exact comesBack_dataFile ht names r hp hrow (laid_id_dataOutline names hplain hformat)

/-- Texts, and what they are decoded to. -/
inductive Sample where
  | null
  | text (s : String)
  | decoded (s : String)
  deriving DecidableEq, Repr

namespace Sample

def decode : Sample → Sample
  | text s => decoded s
  | v => v

def encode : Sample → Sample
  | decoded s => text s
  | v => v

def platform : Platform Sample where
  null := null
  cast _ v := v
  decodeJson := decode
  encodeJson := encode
  makeDate := decode
  formatDate _ := encode
  callOnClass _ _ := decode
  callOnValue _ := encode

def uuid : Mapping :=
  { family := "uuid", className := "Ids\\Uuid", interfaceName := "Ids\\UuidInterface"
    fromRaw := ⟨"fromString", .onClass⟩, toRaw := ⟨"toString", .onValue⟩ }

def kinds : Kinds Sample where
  scalar _ v := ∃ s, v = text s
  object m v := m = uuid ∧ ∃ s, v = text s

theorem lawful (format : String) : platform.Lawful kinds format where
  scalar_ne_null := by rintro _ _ ⟨s, rfl⟩; exact nofun
  object_ne_null := by rintro _ _ ⟨-, s, rfl⟩; exact nofun
  cast_int _ := rfl
  cast_float _ := rfl
  cast_bool _ := rfl
  cast_string _ := rfl
  decodeJson_ne_null := by rintro _ ⟨s, rfl⟩; exact nofun
  encodeJson_decodeJson := by rintro _ ⟨s, rfl⟩; rfl
  makeDate_ne_null := by rintro _ ⟨s, rfl⟩; exact nofun
  formatDate_makeDate := by rintro _ ⟨s, rfl⟩; rfl
  wrap_ne_null := by rintro _ _ ⟨rfl, s, rfl⟩; exact nofun
  unwrap_wrap := by rintro _ _ ⟨rfl, s, rfl⟩; rfl

def columns : List Column :=
  [{ name := "id", scalar := .int },
   { name := "note", scalar := .json, nullable := true },
   { name := "owner", scalar := .string, valueObject := some uuid },
   { name := "created_at", scalar := .datetime },
   { name := "changed_at", scalar := .datetime, readOnly := true }]

def row : Entries Sample :=
  [("id", .text "7"), ("note", .null), ("owner", .text "c0ffee"),
   ("created_at", .text "2024-01-02 03:04:05"), ("changed_at", .text "2024-02-03 04:05:06")]

theorem row_fits : platform.FitsRow kinds columns row := by
  simp only [columns, Platform.FitsRow, List.forall_mem_cons]
  refine ⟨?_, ?_, ?_, ?_, ?_, fun c hc => nomatch hc⟩
  · exact ⟨.text "7", rfl, .inl ⟨"7", rfl⟩⟩
  · exact ⟨.null, rfl, .inr ⟨rfl, rfl⟩⟩
  · exact ⟨.text "c0ffee", rfl, .inl ⟨rfl, "c0ffee", rfl⟩⟩
  · exact ⟨.text "2024-01-02 03:04:05", rfl, .inl ⟨"2024-01-02 03:04:05", rfl⟩⟩
  · exact ⟨.text "2024-02-03 04:05:06", rfl, .inl ⟨"2024-02-03 04:05:06", rfl⟩⟩

def table : Table := ⟨"orders", columns, none⟩

theorem written_row :
    (table.readWrite.map fun c => (c.name, (row.get? c.name).getD platform.null))
      = [("id", .text "7"), ("note", .null), ("owner", .text "c0ffee"),
        ("created_at", .text "2024-01-02 03:04:05")] := by
  decide +kernel

end Sample

theorem row_round_trip_sample :
    (dataFile Sample.table (.ofTable "App" "orders") {}).value.declared.methods.map
        (fun m => (m.name, m.params.map (·.name))) =
      [("__construct", ["id", "note", "owner", "createdAt"]), ("fromArray", ["data"]),
       ("fromRow", ["row"]), ("toArray", []), ("toDatabaseArray", []), ("getId", []),
       ("getNote", []), ("getOwner", []), ("getCreatedAt", []), ("setChangedAt", ["changedAt"]),
       ("getChangedAt", [])] ∧
    ComesBack Sample.platform id (dataFile Sample.table (.ofTable "App" "orders") {}).value Sample.row
      [("id", .text "7"), ("note", .null), ("owner", .text "c0ffee"),
       ("created_at", .text "2024-01-02 03:04:05")] := by
  have htable : Table.make "orders" Sample.columns none = .ok Sample.table := by decide +kernel
  have hback := (row_round_trip htable (by decide +kernel) (.ofTable "App" "orders") {}
    (by decide +kernel) Sample.platform Sample.kinds (Sample.lawful _) Sample.row
    Sample.row_fits).2 (by decide +kernel)
  rw [Sample.written_row] at hback
  exact ⟨by decide +kernel, hback⟩

end TableClasses.Classes
