import TableClasses.Classes.Render
import TableClasses.Proofs.BodyLines
import TableClasses.Proofs.Conversions

/-!
# Columns and members by position

The lists of a data class follow the order of the columns, each built on its own: parameters,
arguments, setter calls, entries, properties and accessors. `Aligned` says of a class, from what its
methods say line by line, that they agree with the columns position by position, so that no value
meets the member of another column. `sources` are the entries and fields that an expression reads;
what is built for a column has one source, the entry or the field of that column.
-/

namespace TableClasses.Classes

open TableClasses.Text TableClasses.Naming TableClasses.Code TableClasses.ValueObject

/-! ## What expressions read -/

namespace Expression

/-- The entries and fields in an expression, those of guards included. -/
def sources : Expression → List Expression
  | entry array key => [entry array key]
  | field name => [field name]
  | cast _ e => e.sources
  | decodeJson e => e.sources
  | encodeJson e => e.sources
  | makeDate e => e.sources
  | formatDate e _ => e.sources
  | call _ _ e => e.sources
  | ifSet guard e => guard.sources ++ e.sources
  | unlessNull guard e => guard.sources ++ e.sources

/-- An expression of one source. -/
structure Reads (source e : Expression) : Prop where
  some : e.sources ≠ []
  only : ∀ s ∈ e.sources, s = source

theorem reads_entry (array key : String) : Reads (entry array key) (entry array key) :=
  ⟨by simp [sources], by simp [sources]⟩

theorem reads_field (name : String) : Reads (field name) (field name) :=
  ⟨by simp [sources], by simp [sources]⟩

section
variable {source guard e : Expression}

/-- A guard and a value of one source. -/
theorem Reads.guarded (hguard : Reads source guard) (he : Reads source e) :
    Reads source (ifSet guard e) ∧ Reads source (unlessNull guard e) := by
  have hsome : guard.sources ++ e.sources ≠ [] := by simp [hguard.some]
  have honly : ∀ s ∈ guard.sources ++ e.sources, s = source :=
    List.forall_mem_append.2 ⟨hguard.only, he.only⟩
  exact ⟨⟨hsome, honly⟩, ⟨hsome, honly⟩⟩

end

end Expression

open Expression

/-- A conversion of a row's value reads what the value reads. -/
theorem lasting_reads_fromRaw (c : Column) (source raw : Expression) (h : Reads source raw) :
    Lasting (fromRaw c raw) fun _ e => Reads source e := by
  unfold fromRaw
  cases c.valueObject with
  | some m =>
    exact (lasting_callReference m.className m.fromRaw).bind fun _ =>
      .pure fun _ _ => ⟨h.some, h.only⟩
  | none => cases c.scalar <;> exact .pure fun _ => ⟨h.some, h.only⟩

theorem lasting_reads_hydrate (c : Column) :
    Lasting (hydrate c) fun _ e => Reads (.entry "row" c.name) e := by
  have hraw := reads_entry "row" c.name
  unfold hydrate
  refine (lasting_reads_fromRaw c _ _ hraw).bind fun value => .pure ?_
  intro i hvalue
  split
  · exact (hraw.guarded hvalue).1
  · exact hvalue

theorem lasting_reads_toRaw? (format : String) (c : Column) (source value : Expression)
    (h : Reads source value) :
    Lasting (toRaw? format c value) fun _ e? => ∀ e ∈ e?, Reads source e := by
  have hsame : ∀ e : Expression, e.sources = value.sources → Reads source e :=
    fun e he => ⟨he ▸ h.some, he ▸ h.only⟩
  unfold toRaw?
  cases c.valueObject with
  | some m =>
    refine (lasting_callReference m.className m.toRaw).bind fun ref => .pure fun _ _ e he => ?_
    obtain rfl := Option.some.inj he
    exact hsame _ rfl
  | none =>
    refine .pure fun _ e he => ?_
    cases hs : c.scalar with
    | json =>
      rw [hs] at he
      obtain rfl := Option.some.inj he
      exact hsame _ rfl
    | datetime =>
      rw [hs] at he
      obtain rfl := Option.some.inj he
      exact hsame _ rfl
    | _ =>
      rw [hs] at he
      cases he

theorem lasting_reads_dehydrate (format : String) (c : Column) :
    Lasting (dehydrate format c) fun _ e => Reads (.field c.field) e := by
  have hfield := reads_field c.field
  unfold dehydrate
  refine (lasting_reads_toRaw? format c _ _ hfield).bind fun converted => ?_
  cases converted with
  | none => exact .pure fun _ _ => hfield
  | some value =>
    refine .pure fun _ hvalue => ?_
    have hvalue := hvalue value rfl
    split
    · exact (hfield.guarded hvalue).2
    · exact hvalue

/-! ## Classes in step with their table -/

/-- A class that covers the columns of a table, in order. -/
structure Aligned (layout : List String → List String) (t : Table) (style : KeyStyle)
    (d : ClassDecl) : Prop where
  /-- The first five methods are for whole rows, the others for single columns. -/
  methods : d.methods.map (·.name)
    = ["__construct", "fromArray", "fromRow", "toArray", "toDatabaseArray"]
      ++ t.readWrite.map Column.getter ++ t.readOnly.flatMap fun c => [c.setter, c.getter]
  /-- Read-write columns are promoted parameters. -/
  constructor : ∃ m, d.method? "__construct" = some m ∧ m.body = [] ∧
    m.params.map (fun p => (p.name, p.promoted)) = t.readWrite.map fun c => (c.field, some .prot)
  /-- `fromArray` passes to each parameter the entry under the key of its column. -/
  fromArray : ArrayCode layout d (t.readWrite.map fun c => .entry "data" (style.apply c.name))
  /-- `fromRow` passes to each parameter the value of its column and sets the read-only columns one
  after the other. -/
  fromRow : ∃ arguments setters, RowCode layout d arguments setters ∧
    List.Forall₂ (fun c e => Expression.Reads (.entry "row" c.name) e) t.readWrite arguments ∧
    List.Forall₂ (fun c e => e.1 = c.setter ∧ Expression.Reads (.entry "row" c.name) e.2)
      t.readOnly setters
  toArray : ∃ m, d.method? "toArray" = some m ∧ m.isStatic = false ∧ m.params = [] ∧
    m.body = ["return get_object_vars($this);"]
  /-- `toDatabaseArray` has one entry for each read-write column. -/
  toDatabaseArray : ∃ entries, DatabaseCode layout d entries ∧
    List.Forall₂ (fun c e => e.1 = c.name ∧ Expression.Reads (.field c.field) e.2) t.readWrite
      entries
  /-- Read-only columns are properties, which are null at first if they may be. -/
  properties : d.properties.map (fun p => (p.name, p.visibility, p.value))
    = t.readOnly.map fun c => (c.field, .prot, if c.nullable then some .null else none)
  /-- There is a getter for every column -/
  getters : ((d.methods.drop 5).filter (·.visibility = .pub)).map
      (fun m => (m.name, m.isStatic, m.params, m.body))
    = (t.readWrite ++ t.readOnly).map fun c =>
        (c.getter, false, [], ["return $this->" ++ c.field ++ ";"])
  /-- and, hidden, a setter for every read-only one. -/
  setters : ((d.methods.drop 5).filter (·.visibility ≠ .pub)).map
      (fun m => (m.name, m.visibility, m.isStatic, m.params.map (·.name), m.body))
    = t.readOnly.map fun c =>
        (c.setter, .priv, false, [c.field],
          ["$this->" ++ c.field ++ " = $" ++ c.field ++ ";", "", "return $this;"])

/-- The methods of a data class for single columns. -/
def Outline.accessors (o : Outline) : List Method :=
  o.readWrite.map (fun m => getter m.column m.type)
    ++ o.readOnly.flatMap fun (m, setterType, getterType) =>
      [setter m.column setterType, getter m.column getterType]

section
variable {α β γ : Type}

theorem map_eq_map_of_forall₂ {R : α → β → Prop} {f : α → γ} {g : β → γ} {l : List α} {bs : List β}
    (h : List.Forall₂ R l bs) (hR : ∀ a b, R a b → g b = f a) : bs.map g = l.map f := by
  induction h with
  | nil => rfl
  | cons hab _ ih => rw [List.map_cons, List.map_cons, hR _ _ hab, ih]

end

theorem pub_accessors (o : Outline) :
    o.accessors.filter (·.visibility = .pub)
      = o.readWrite.map (fun m => getter m.column m.type)
        ++ o.readOnly.map fun m => getter m.1.column m.2.2 := by
  have hgetters : (o.readWrite.map fun m => getter m.column m.type).filter (·.visibility = .pub)
      = o.readWrite.map fun m => getter m.column m.type :=
    List.filter_eq_self.2 fun m hm => by
      obtain ⟨_, -, rfl⟩ := List.mem_map.1 hm
      rfl
  unfold Outline.accessors
  rw [List.filter_append, hgetters, List.filter_flatMap, List.map_eq_flatMap (l := o.readOnly)]
  rfl

theorem hidden_accessors (o : Outline) :
    o.accessors.filter (·.visibility ≠ .pub)
      = o.readOnly.map fun m => setter m.1.column m.2.1 := by
  have hgetters : (o.readWrite.map fun m => getter m.column m.type).filter (·.visibility ≠ .pub)
      = [] :=
    List.filter_eq_nil_iff.2 fun m hm => by
      obtain ⟨_, -, rfl⟩ := List.mem_map.1 hm
      exact Bool.false_ne_true
  unfold Outline.accessors
  rw [List.filter_append, hgetters, List.filter_flatMap, List.map_eq_flatMap (l := o.readOnly)]
  rfl

theorem Outline.methods_eq (o : Outline) :
    o.methods = [o.constructor, o.fromArray, o.fromRow, toArray, o.toDatabaseArray] ++ o.accessors := by
  rw [methods, accessors, List.append_assoc]

section
variable {t : Table} {H D : Imports → Column → Expression → Prop} {i : Imports} {o : Outline}

theorem params_of_built (h : Built t H D i o) :
    o.constructor.params.map (fun p => (p.name, p.promoted))
      = t.readWrite.map fun c => (c.field, some .prot) := by
  unfold Outline.constructor
  rw [List.map_map]
  refine map_eq_map_of_forall₂ h.parameters fun c m hm => ?_
  subst hm
  rfl

theorem properties_of_built (h : Built t H D i o) :
    o.properties.map (fun p => (p.name, p.visibility, p.value))
      = t.readOnly.map fun c => (c.field, .prot, if c.nullable then some .null else none) := by
  unfold Outline.properties
  rw [List.map_map]
  refine map_eq_map_of_forall₂ h.readOnly fun c m hm => ?_
  subst hm
  rfl

theorem setters_of_built (h : Built t H D i o) :
    (o.accessors.filter (·.visibility ≠ .pub)).map
        (fun m => (m.name, m.visibility, m.isStatic, m.params.map (·.name), m.body))
      = t.readOnly.map fun c =>
          (c.setter, .priv, false, [c.field],
            ["$this->" ++ c.field ++ " = $" ++ c.field ++ ";", "", "return $this;"]) := by
  rw [hidden_accessors, List.map_map]
  refine map_eq_map_of_forall₂ h.readOnly fun c m hm => ?_
  subst hm
  simp only [Function.comp, body_setter]
  rfl

theorem getters_of_built (h : Built t H D i o)
    (hreadWrite : List.Forall₂ (fun c m => m.column = c) t.readWrite o.readWrite) :
    (o.accessors.filter (·.visibility = .pub)).map (fun m => (m.name, m.isStatic, m.params, m.body))
      = (t.readWrite ++ t.readOnly).map fun c =>
          (c.getter, false, [], ["return $this->" ++ c.field ++ ";"]) := by
  rw [pub_accessors, List.map_append, List.map_map, List.map_map, List.map_append]
  congr 1
  · refine map_eq_map_of_forall₂ hreadWrite fun c m hm => ?_
    subst hm
    simp only [Function.comp, body_getter]
    rfl
  · refine map_eq_map_of_forall₂ h.readOnly fun c m hm => ?_
    subst hm
    simp only [Function.comp, body_getter]
    rfl

theorem names_methods (h : Built t H D i o)
    (hreadWrite : List.Forall₂ (fun c m => m.column = c) t.readWrite o.readWrite) :
    o.methods.map Method.name
      = ["__construct", "fromArray", "fromRow", "toArray", "toDatabaseArray"]
        ++ t.readWrite.map Column.getter ++ t.readOnly.flatMap fun c => [c.setter, c.getter] := by
  have hgetters : (o.readWrite.map fun m => getter m.column m.type).map Method.name
      = t.readWrite.map Column.getter := by
    rw [List.map_map]
    exact map_eq_map_of_forall₂ hreadWrite fun c m hm => congrArg Column.getter hm
  have hreadOnly : o.readOnly.map (fun m => [m.1.column.setter, m.1.column.getter])
      = t.readOnly.map fun c => [c.setter, c.getter] :=
    map_eq_map_of_forall₂ h.readOnly fun c m hm => by rw [hm]
  unfold Outline.methods
  rw [List.map_append, List.map_append, Outline.map_name_rowMethods, hgetters, List.map_flatMap,
    List.flatMap_def, List.flatMap_def, ← hreadOnly]
  rfl

end

/-! ## The data class of a table -/

/-- Whatever the expressions are, the parts of an outline are those of the columns. -/
theorem built_columns (t : Table) (n : Names) (r : Rendering) :
    Built t (fun _ _ _ => True) (fun _ _ _ => True) (dataOutline t n r).2 (dataOutline t n r).1 :=
  built_dataOutline (fun c _ => (lasting_reads_hydrate c).mono fun _ _ _ => trivial)
    fun c _ => (lasting_reads_dehydrate r.datetimeFormat c).mono fun _ _ _ => trivial

theorem param_names_dataOutline (t : Table) (n : Names) (r : Rendering) :
    (dataOutline t n r).1.constructor.params.map (·.name) = t.readWrite.map Column.field := by
  have hnames := congrArg (List.map Prod.fst) (params_of_built (built_columns t n r))
  rwa [List.map_map, List.map_map] at hnames

theorem aligned_of_laid {t : Table} {names : Names} {r : Rendering}
    {layout : List String → List String} (hlaid : (dataOutline t names r).1.Laid layout)
    (className : String) :
    Aligned layout t r.keyStyle ((dataOutline t names r).1.declaration className) := by
  obtain ⟨hbuilt, htyped⟩ := built_typed_dataOutline (t := t) (n := names) (r := r)
    (T := fun _ _ _ => True) (fun c _ => lasting_memberType c)
    (fun c _ => lasting_reads_hydrate c) fun c _ => lasting_reads_dehydrate r.datetimeFormat c
  have hreadWrite := htyped.readWrite.imp fun _ _ h => h.1
  obtain ⟨harray, hrow, hdatabase⟩ := hlaid.codes_dataOutline className
  generalize (dataOutline t names r).1 = o at *
  exact
    { methods := names_methods hbuilt hreadWrite
      constructor := ⟨_, rfl, rfl, params_of_built hbuilt⟩
      fromArray := harray
      fromRow := ⟨_, _, hrow, hbuilt.rowArguments, hbuilt.rowSetters⟩
      toArray := ⟨Outline.toArray, rfl, rfl, rfl, body_toArray⟩
      toDatabaseArray := ⟨_, hdatabase, hbuilt.databaseEntries⟩
      properties := properties_of_built hbuilt
      getters := getters_of_built hbuilt hreadWrite
      setters := setters_of_built hbuilt }

theorem readWrite_append_readOnly_perm (t : Table) : (t.readWrite ++ t.readOnly).Perm t.columns := by
  have hreadOnly : t.readOnly = t.columns.filter fun c => !!c.readOnly := by
    simp only [Table.readOnly, Bool.not_not]
  rw [hreadOnly]
  exact List.filter_append_perm _ _

/-- The class has camelCase parameters, whatever the keys of arrays are. -/
theorem Aligned.param_names {layout : List String → List String} {t : Table} {style : KeyStyle}
    {d : ClassDecl} (h : Aligned layout t style d) :
    ∃ m, d.method? "__construct" = some m ∧
      m.params.map (·.name) = t.readWrite.map fun c => KeyStyle.camelCase.apply c.name := by
  obtain ⟨m, hm, -, hparams⟩ := h.constructor
  have hnames := congrArg (List.map Prod.fst) hparams
  rw [List.map_map, List.map_map] at hnames
  exact ⟨m, hm, hnames⟩

/-- The data class of a table covers its columns in order, and line by line where no name has a line
break. In camelCase `fromArray` reads the name of each parameter, so that from the array of an object
it gets the values of that object. -/
theorem data_class_aligned (r : Rendering) (t : Table) :
    (t.readWrite ++ t.readOnly).Perm t.columns ∧
      Aligned cut t r.keyStyle (build r .data t).value.declared ∧
      ((∀ c ∈ t.columns, PlainColumn c) → OneLine r.datetimeFormat →
        Aligned id t r.keyStyle (build r .data t).value.declared) ∧
      (r.keyStyle = .camelCase →
        ∃ m, (build r .data t).value.declared.method? "__construct" = some m ∧
          (t.readWrite.map fun c => r.keyStyle.apply c.name) = m.params.map (·.name) ∧
          ∀ (V : Type) [DecidableEq V] (p : Platform V) (object : Entries V),
            (t.readWrite.map fun c => Expression.entry "data" (r.keyStyle.apply c.name)).mapM
                (Expression.eval p (build r .data t).value.imports { arrays := [("data", object)] })
              = (m.params.map (·.name)).mapM object.get?) := by
  have haligned : Aligned cut t r.keyStyle (build r .data t).value.declared := by
    rw [build, dataFile_value]
    exact aligned_of_laid (Outline.laid_cut _) _
  refine ⟨readWrite_append_readOnly_perm t, haligned, fun hcolumns hformat => ?_, fun hstyle => ?_⟩
  · rw [build, dataFile_value]
    exact aligned_of_laid (laid_id_dataOutline _ hcolumns hformat) _
  · obtain ⟨m, hm, hnames⟩ := haligned.param_names
    rw [hstyle]
    refine ⟨m, hm, hnames.symm, fun V _ p object => ?_⟩
    rw [hnames, List.mapM_map, List.mapM_map]
    rfl

/-- Read-only columns between others. -/
def shipments : Table :=
  { name := "shipments"
    columns :=
      [{ name := "created_at", scalar := .datetime, readOnly := true },
       { name := "order_id", scalar := .int },
       { name := "changed_at", scalar := .datetime, nullable := true, readOnly := true },
       { name := "labelText", scalar := .string, nullable := true }]
    primaryKey := none }

theorem data_class_aligned_shipments :
    Aligned id shipments .camelCase (build {} .data shipments).value.declared ∧
      ((build {} .data shipments).value.declared.method? "fromRow").map (·.body) = some
        ["$instance = new self(",
         "\t(int) $row['order_id'],",
         "\tisset($row['labelText']) ? (string) $row['labelText'] : null,",
         ");",
         "",
         "$instance->setCreatedAt(new \\DateTimeImmutable($row['created_at']));",
         "$instance->setChangedAt(isset($row['changed_at']) ? "
           ++ "new \\DateTimeImmutable($row['changed_at']) : null);",
         "",
         "return $instance;"] ∧
      ∃ m, (build {} .data shipments).value.declared.method? "__construct" = some m ∧
        m.params.map (·.name) = ["orderId", "labelText"] ∧
        ∀ (V : Type) [DecidableEq V] (p : Platform V) (object : Entries V),
          [Expression.entry "data" "orderId", .entry "data" "labelText"].mapM
              (Expression.eval p (build {} .data shipments).value.imports
                { arrays := [("data", object)] })
            = ["orderId", "labelText"].mapM object.get? := by
  obtain ⟨-, -, hlines, hcamel⟩ := data_class_aligned {} shipments
  obtain ⟨m, hm, hnames, hvalues⟩ := hcamel rfl
  have hkeys : (shipments.readWrite.map fun c => KeyStyle.camelCase.apply c.name)
      = ["orderId", "labelText"] := by
    decide +kernel
  have harguments : (shipments.readWrite.map fun c =>
        Expression.entry "data" (KeyStyle.camelCase.apply c.name))
      = [.entry "data" "orderId", .entry "data" "labelText"] := by
    decide +kernel
  have hparams : m.params.map (·.name) = ["orderId", "labelText"] := hnames.symm.trans hkeys
  refine ⟨hlines (by decide +kernel) (by decide +kernel), by decide +kernel, m, hm, hparams, ?_⟩
  intro V _ p object
  have hvalues := hvalues V p object
  rwa [hparams, harguments] at hvalues

end TableClasses.Classes
