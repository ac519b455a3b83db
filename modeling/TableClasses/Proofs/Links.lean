import TableClasses.Proofs.Outlines
import TableClasses.Proofs.Segments

/-!
# Links between classes

The three classes of a table refer to each other and to the library, and each file resolves its
references by its own namespace and imports. `StorageLinks`, `CollectionLinks` and `DataLinks` say
for every place of a file in which a class is named which class that is. They are read off what
lasts while a file collects its imports, so it does not matter which short names collide.
-/

namespace TableClasses.Classes

open TableClasses.Text TableClasses.Naming TableClasses.Code TableClasses.ValueObject

/-- A generated class has no backslash in front of its name. -/
theorem trimLeadingBackslashes_fullName (base table : String) (k : Kind) :
    trimLeadingBackslashes ((Names.ofTable base table).fullName k)
      = (Names.ofTable base table).fullName k := by
  have hstart : trimStart isBackslash ((Names.ofTable base table).fullName k).toList
      = ((Names.ofTable base table).fullName k).toList :=
    (trimmed_iff.1 (trimmed_joinNames _)).1
  rw [trimLeadingBackslashes, onChars, hstart, String.ofList_toList]

/-! ## Places in which a class is named -/

/-- Types of the language, which name no class. -/
def builtinTypeNames : List String := ["string", "int", "string|int", "array", "iterable", "self"]

/-- The type is written out, and it is one of the language. -/
def IsBuiltin (type : Option TypeRef) : Prop :=
  ∃ written, type = some written ∧ written.name ∈ builtinTypeNames

/-- A call of a method with these parameters. -/
def callOf (method : String) (params : List Parameter) : String :=
  method ++ "(" ++ ", ".intercalate (params.map fun p => "$" ++ p.name) ++ ")"

/-- The method passes its parameters on to the parent's method, and `check` is asserted of what that
gives. -/
def Delegates (m : Method) (check : String) : Prop :=
  m.body = delegation (callOf m.name m.params) check

/-- The properties of a class whose values are code. -/
def propertyCode (d : ClassDecl) : List (String × String) :=
  d.properties.filterMap fun p =>
    match p.value with
    | some (.code text) => some (p.name, text)
    | _ => none

/-- The method gives a row or nothing. -/
def FindsOne (data : String) (m : Method) : Prop :=
  m.name ∈ ["findOne", "findOneByCriteria"] ∧
    m.returns = some { name := data, nullable := true } ∧
    Delegates m ("assert($data === null || $data instanceof " ++ data ++ ");")

/-- The method gives a collection of rows. -/
def FindsMany (data collection : String) (m : Method) : Prop :=
  m.name ∈ ["find", "findAll", "findByCriteria"] ∧
    m.returns = some { name := collection } ∧
    Delegates m ("assert($data instanceof " ++ collection ++ ");") ∧
    "@return " ++ collection ++ "<int|string, " ++ data ++ ">" ∈ m.comment

/-- The method makes a collection and is declared to give the interface of one. -/
def Creates (interface data : String) (m : Method) : Prop :=
  m.name = "create" ∧ m.returns = some { name := interface } ∧
    m.body = code ("return new static($data, " ++ data ++ "::class, $idField);")

/-- The method gives an element of the collection. -/
def GivesElement (data : String) (m : Method) : Prop :=
  m.name ∈ ["get", "current"] ∧
    m.returns = some { name := data ++ "|false|null" } ∧
    Delegates m ("assert($data === null || $data === false || $data instanceof " ++ data ++ ");")

structure StorageLinks (r : Rendering) (t : Table) (f : File) : Prop where
  parent : ∃ ref, f.declared.parent = some ref ∧
    f.imports.resolve ref = trimLeadingBackslashes r.library.storageBase
  interfaces : f.declared.interfaces = []
  members : ∃ data collection,
    f.imports.resolve data = (Names.ofTable r.baseNamespace t.name).fullName .data ∧
    f.imports.resolve collection = (Names.ofTable r.baseNamespace t.name).fullName .collection ∧
    (∀ p ∈ f.declared.properties, IsBuiltin p.type) ∧
    propertyCode f.declared
      = [("rowFactoryClass", data ++ "::class"), ("collectionFactory", collection ++ "::class")] ∧
    ∀ m ∈ f.declared.methods,
      (∀ p ∈ m.params, IsBuiltin p.type) ∧ (FindsOne data m ∨ FindsMany data collection m)

structure CollectionLinks (r : Rendering) (t : Table) (f : File) : Prop where
  parent : ∃ ref, f.declared.parent = some ref ∧
    f.imports.resolve ref = trimLeadingBackslashes r.library.collectionBase
  interfaces : f.declared.interfaces = []
  members : ∃ interface data,
    f.imports.resolve interface = trimLeadingBackslashes r.library.collectionInterface ∧
    f.imports.resolve data = (Names.ofTable r.baseNamespace t.name).fullName .data ∧
    (∀ p ∈ f.declared.properties, IsBuiltin p.type) ∧
    propertyCode f.declared = [] ∧
    ∀ m ∈ f.declared.methods,
      (∀ p ∈ m.params, IsBuiltin p.type) ∧ (Creates interface data m ∨ GivesElement data m)

/-- The calls of value objects' methods in an expression, with the references to their classes. -/
def Expression.calls : Expression → List (MethodCall × String)
  | entry _ _ => []
  | field _ => []
  | cast _ e => e.calls
  | decodeJson e => e.calls
  | encodeJson e => e.calls
  | makeDate e => e.calls
  | formatDate e _ => e.calls
  | call method classRef e => (method, classRef) :: e.calls
  | ifSet guard e => guard.calls ++ e.calls
  | unlessNull guard e => guard.calls ++ e.calls

/-- The expression calls `call` of the column's value object and nothing else. A call on a class
is on the class of the value object. -/
def Calls (call : Mapping → MethodCall) (i : Imports) (c : Column) (e : Expression) : Prop :=
  match c.valueObject with
  | some m => ∃ ref, e.calls = [(call m, ref)] ∧
    ((call m).kind = .onClass → i.resolve ref = trimLeadingBackslashes m.className)
  | none => e.calls = []

/-- The type is that of a column: the interface of its value object, or else one of the language. -/
def TypeOf (i : Imports) (c : Column) (type : TypeRef) : Prop :=
  type.nullable = c.nullable ∧
    match c.valueObject with
    | some m => i.resolve type.name = trimLeadingBackslashes m.interfaceName
    | none => type.name = c.scalar.signatureType

/-- The method gives the value of a column. -/
def Gets (i : Imports) (c : Column) (m : Method) : Prop :=
  m.name = c.getter ∧ m.params = [] ∧ ∃ type, m.returns = some type ∧ TypeOf i c type

/-- The method takes the value of a column. -/
def Sets (i : Imports) (c : Column) (m : Method) : Prop :=
  m.name = c.setter ∧ m.returns = some { name := "self" } ∧
    ∃ type, m.params = [{ name := c.field, type := some type }] ∧ TypeOf i c type

structure DataLinks (r : Rendering) (t : Table) (f : File) : Prop where
  parent : f.declared.parent = none
  interfaces : ∃ ref, f.declared.interfaces = [ref] ∧
    f.imports.resolve ref = trimLeadingBackslashes r.library.dataInterface
  properties : List.Forall₂
    (fun c p => p.name = c.field ∧ ∃ type, p.type = some type ∧ TypeOf f.imports c type)
    t.readOnly f.declared.properties
  propertyCode : propertyCode f.declared = []
  members : ∃ (o : Outline) (getters : List Method) (accessors : List (Method × Method)),
    f.declared.methods =
      [o.constructor, o.fromArray, o.fromRow, Outline.toArray, o.toDatabaseArray]
        ++ getters ++ accessors.flatMap (fun a => [a.1, a.2]) ∧
    List.Forall₂
      (fun c p => p.name = c.field ∧ ∃ type, p.type = some type ∧ TypeOf f.imports c type)
      t.readWrite o.constructor.params ∧
    (∀ m ∈ [o.fromArray, o.fromRow, Outline.toArray, o.toDatabaseArray],
      IsBuiltin m.returns ∧ ∀ p ∈ m.params, IsBuiltin p.type) ∧
    List.Forall₂ (Gets f.imports) t.readWrite getters ∧
    List.Forall₂ (fun c a => Sets f.imports c a.1 ∧ Gets f.imports c a.2) t.readOnly accessors ∧
    (∀ e ∈ o.arrayArguments, e.calls = []) ∧
    Built t (Calls (·.fromRaw)) (Calls (·.toRaw)) f.imports o

/-! ## Storages and collections -/

/-- Three classes that are named one after the other, read back when the file is complete. -/
theorem resolve_references {i : Imports} (hi : i.Sound) (a b c : String) :
    let x := reference a i
    let y := reference b x.2
    let z := reference c y.2
    z.2.resolve x.1 = trimLeadingBackslashes a ∧ z.2.resolve y.1 = trimLeadingBackslashes b ∧
      z.2.resolve z.1 = trimLeadingBackslashes c := by
  intro x y z
  obtain ⟨hsound, -, ha⟩ := Lasting.reference a i hi
  obtain ⟨hsound', hgrows, hb⟩ := Lasting.reference b x.2 hsound
  obtain ⟨hsound'', hgrows', hc⟩ := Lasting.reference c y.2 hsound'
  exact ⟨ha _ (hgrows.trans hgrows') hsound'', hb _ hgrows' hsound'', hc _ (.refl _) hsound''⟩

section
variable (t : Table) (names : Names) (library : Library)

theorem storageFile_declared : ∃ base data collection,
    (storageFile t names library).declared =
        { name := names.className .storage, parent := some base
          properties := storageProperties t data collection
          methods := storageMethods data collection } ∧
      (storageFile t names library).imports.resolve base
        = trimLeadingBackslashes library.storageBase ∧
      (storageFile t names library).imports.resolve data
        = trimLeadingBackslashes (names.fullName .data) ∧
      (storageFile t names library).imports.resolve collection
        = trimLeadingBackslashes (names.fullName .collection) := by
  unfold storageFile
  simp only [importing_bind, importing_pure]
  exact ⟨_, _, _, rfl, resolve_references (sound_importsFor _ _) _ _ _⟩

theorem collectionFile_declared : ∃ base interface data,
    (collectionFile t names library).declared =
        { name := names.className .collection, parent := some base
          properties := keySerializer t, methods := collectionMethods data interface } ∧
      (collectionFile t names library).imports.resolve base
        = trimLeadingBackslashes library.collectionBase ∧
      (collectionFile t names library).imports.resolve interface
        = trimLeadingBackslashes library.collectionInterface ∧
      (collectionFile t names library).imports.resolve data
        = trimLeadingBackslashes (names.fullName .data) := by
  unfold collectionFile
  simp only [importing_bind, importing_pure]
  exact ⟨_, _, _, rfl, resolve_references (sound_importsFor _ _) _ _ _⟩

end

theorem isBuiltin_some {type : TypeRef} (h : type.name ∈ builtinTypeNames) :
    IsBuiltin (some type) := ⟨type, rfl, h⟩

theorem finds_of_mem {data collection : String} {m : Method}
    (hm : m ∈ storageMethods data collection) :
    (∀ p ∈ m.params, IsBuiltin p.type) ∧ (FindsOne data m ∨ FindsMany data collection m) := by
  have hpage : ∀ p ∈ pageParams, IsBuiltin p.type := by
    simp [pageParams, IsBuiltin, builtinTypeNames]
  simp only [storageMethods, List.mem_cons, List.not_mem_nil, or_false] at hm
  obtain rfl | rfl | rfl | rfl | rfl := hm
  · refine ⟨List.forall_mem_singleton.2 (isBuiltin_some (by decide)), .inl ⟨.head _, rfl, ?_⟩⟩
    simp [Delegates, callOf]
  · refine ⟨List.forall_mem_singleton.2 (isBuiltin_some (by decide)), .inl ⟨by simp, rfl, ?_⟩⟩
    simp [Delegates, callOf]
  · refine ⟨List.forall_mem_cons.2 ⟨isBuiltin_some (by decide), hpage⟩, .inr ⟨by simp, rfl, ?_⟩⟩
    simp [Delegates, callOf, pageParams]
  · refine ⟨hpage, .inr ⟨by simp, rfl, ?_⟩⟩
    simp [Delegates, callOf, pageParams]
  · refine ⟨List.forall_mem_cons.2 ⟨isBuiltin_some (by decide), hpage⟩, .inr ⟨by simp, rfl, ?_⟩⟩
    simp [Delegates, callOf, pageParams]

theorem gives_of_mem {data interface : String} {m : Method}
    (hm : m ∈ collectionMethods data interface) :
    (∀ p ∈ m.params, IsBuiltin p.type) ∧ (Creates interface data m ∨ GivesElement data m) := by
  simp only [collectionMethods, List.mem_cons, List.not_mem_nil, or_false] at hm
  obtain rfl | rfl | rfl := hm
  · exact ⟨by simp [IsBuiltin, builtinTypeNames], .inl ⟨rfl, rfl, rfl⟩⟩
  · refine ⟨List.forall_mem_singleton.2 (isBuiltin_some (by decide)), .inr ⟨.head _, rfl, ?_⟩⟩
    simp [Delegates, callOf]
  · refine ⟨List.forall_mem_nil _, .inr ⟨by simp, rfl, ?_⟩⟩
    simp [Delegates, callOf]

theorem storageLinks_build (r : Rendering) (t : Table) :
    StorageLinks r t (build r .storage t).value := by
  obtain ⟨base, data, collection, hdeclared, hbase, hdata, hcollection⟩ :=
    storageFile_declared t (Names.ofTable r.baseNamespace t.name) r.library
  simp only [build, Warned.value_pure]
  generalize storageFile t _ _ = f at *
  refine ⟨⟨base, by rw [hdeclared], hbase⟩, by rw [hdeclared], data, collection, ?_, ?_, ?_⟩
  · rw [hdata, trimLeadingBackslashes_fullName]
  · rw [hcollection, trimLeadingBackslashes_fullName]
  · rw [hdeclared]
    dsimp only
    refine ⟨?_, ?_, fun m => finds_of_mem⟩
    · simp [storageProperties, IsBuiltin, builtinTypeNames]
    · unfold propertyCode storageProperties
      cases t.primaryKey <;> rfl

theorem collectionLinks_build (r : Rendering) (t : Table) :
    CollectionLinks r t (build r .collection t).value := by
  obtain ⟨base, interface, data, hdeclared, hbase, hinterface, hdata⟩ :=
    collectionFile_declared t (Names.ofTable r.baseNamespace t.name) r.library
  simp only [build, Warned.value_pure]
  generalize collectionFile t _ _ = f at *
  refine ⟨⟨base, by rw [hdeclared], hbase⟩, by rw [hdeclared], interface, data, hinterface, ?_, ?_⟩
  · rw [hdata, trimLeadingBackslashes_fullName]
  · rw [hdeclared]
    dsimp only
    refine ⟨?_, ?_, fun m => gives_of_mem⟩
    · unfold keySerializer
      cases t.keyColumn?.bind (·.valueObject) <;> simp [IsBuiltin, builtinTypeNames]
    · unfold propertyCode keySerializer
      cases t.keyColumn?.bind (·.valueObject) <;> rfl

/-! ## Data classes -/

theorem lasting_typeOf (c : Column) : Lasting (memberType c) fun i type => TypeOf i c type := by
  unfold memberType TypeOf
  cases c.valueObject with
  | none => exact .pure fun _ => ⟨rfl, rfl⟩
  | some m => exact (Lasting.reference m.interfaceName).bind fun _ => .pure fun _ h => ⟨rfl, h⟩

/-- A conversion of a value without calls calls one method of the value object at most. -/
theorem lasting_calls_fromRaw (c : Column) (raw : Expression) (hraw : raw.calls = []) :
    Lasting (fromRaw c raw) (Calls (·.fromRaw) · c) := by
  unfold fromRaw Calls
  cases c.valueObject with
  | some m =>
    refine (lasting_callReference m.className m.fromRaw).bind fun ref => .pure fun i href => ?_
    exact ⟨ref, by rw [Expression.calls, hraw], href⟩
  | none =>
    refine .pure fun i => ?_
    cases c.scalar <;> exact hraw

theorem lasting_calls_hydrate (c : Column) : Lasting (hydrate c) (Calls (·.fromRaw) · c) := by
  unfold hydrate
  refine (lasting_calls_fromRaw c (.entry "row" c.name) rfl).bind fun e => .pure ?_
  intro i h
  split <;> exact h

/-- The conversion back calls one method as well, if there is one. -/
theorem lasting_calls_toRaw? (format : String) (c : Column) (value : Expression)
    (hvalue : value.calls = []) :
    Lasting (toRaw? format c value) fun i converted =>
      Calls (·.toRaw) i c (converted.getD value) := by
  unfold toRaw? Calls
  cases c.valueObject with
  | some m =>
    refine (lasting_callReference m.className m.toRaw).bind fun ref => .pure fun i href => ?_
    exact ⟨ref, by rw [Option.getD_some, Expression.calls, hvalue], href⟩
  | none =>
    refine .pure fun i => ?_
    cases c.scalar <;> exact hvalue

theorem lasting_calls_dehydrate (format : String) (c : Column) :
    Lasting (dehydrate format c) (Calls (·.toRaw) · c) := by
  unfold dehydrate
  refine (lasting_calls_toRaw? format c (.field c.field) rfl).bind fun converted => ?_
  cases converted with
  | none => exact .pure fun _ h => h
  | some e =>
    refine .pure fun i h => ?_
    split <;> exact h

section
variable {t : Table} {interfaceName : String} {i : Imports} {o : Outline}

theorem forall₂_properties (h : Typed t interfaceName TypeOf i o) :
    List.Forall₂ (fun c p => p.name = c.field ∧ ∃ type, p.type = some type ∧ TypeOf i c type)
      t.readOnly o.properties := by
  rw [Outline.properties, List.forall₂_map_right_iff]
  exact h.readOnly.imp fun c m hm => ⟨congrArg Column.field hm.1, m.1.type, rfl, hm.2.1⟩

theorem forall₂_constructor (h : Typed t interfaceName TypeOf i o) :
    List.Forall₂ (fun c p => p.name = c.field ∧ ∃ type, p.type = some type ∧ TypeOf i c type)
      t.readWrite o.constructor.params := by
  rw [Outline.constructor, List.forall₂_map_right_iff]
  exact h.parameters.imp fun c m hm => ⟨congrArg Column.field hm.1, m.1.type, rfl, hm.2⟩

theorem forall₂_getters (h : Typed t interfaceName TypeOf i o) :
    List.Forall₂ (Gets i) t.readWrite (o.readWrite.map fun m => getter m.column m.type) := by
  rw [List.forall₂_map_right_iff]
  exact h.readWrite.imp fun c m hm => ⟨congrArg Column.getter hm.1, rfl, m.type, rfl, hm.2⟩

theorem forall₂_accessors (h : Typed t interfaceName TypeOf i o) :
    List.Forall₂ (fun c a => Sets i c a.1 ∧ Gets i c a.2) t.readOnly
      (o.readOnly.map fun m => (setter m.1.column m.2.1, getter m.1.column m.2.2)) := by
  rw [List.forall₂_map_right_iff]
  refine h.readOnly.imp fun c m ⟨hc, _, hsetter, hgetter⟩ => ?_
  subst hc
  exact ⟨⟨rfl, rfl, m.2.1, rfl, hsetter⟩, ⟨rfl, rfl, m.2.2, rfl, hgetter⟩⟩

variable (o) in
/-- The values of a data class's properties are constants. -/
theorem propertyCode_declaration (className : String) :
    propertyCode (o.declaration className) = [] := by
  simp only [propertyCode, Outline.declaration, Outline.properties, List.filterMap_map,
    List.filterMap_eq_nil_iff, Function.comp]
  intro m _
  split
  · next heq => split at heq <;> cases heq
  · rfl

end

theorem dataLinks_build (r : Rendering) (t : Table) : DataLinks r t (build r .data t).value := by
  simp only [build, dataFile_value]
  generalize Names.ofTable r.baseNamespace t.name = names
  obtain ⟨hbuilt, htyped⟩ := built_typed_dataOutline (t := t) (r := r) (n := names)
    (fun c _ => lasting_typeOf c) (fun c _ => lasting_calls_hydrate c)
    (fun c _ => lasting_calls_dehydrate r.datetimeFormat c)
  have harray := dataOutline_arrayArguments t names r
  generalize dataOutline t names r = result at *
  obtain ⟨o, i⟩ := result
  dsimp only at hbuilt htyped harray
  refine ⟨rfl, ⟨o.interface, rfl, htyped.interface⟩, forall₂_properties htyped,
    propertyCode_declaration o _, o, o.readWrite.map fun m => getter m.column m.type,
    o.readOnly.map fun m => (setter m.1.column m.2.1, getter m.1.column m.2.2), ?_⟩
  refine ⟨?_, forall₂_constructor htyped, ?_, forall₂_getters htyped, forall₂_accessors htyped,
    ?_, hbuilt⟩
  · simp only [Outline.declaration, Outline.methods, List.flatMap_map]
  · simp [Outline.fromArray, Outline.fromRow, Outline.toArray, Outline.toDatabaseArray, IsBuiltin,
      builtinTypeNames]
  · simp [harray, Expression.calls]

/-- Every generated file declares the class that its table and kind name, and each class that the
three files of a table refer to is the intended one. -/
theorem classes_link (r : Rendering) (t : Table) :
    (∀ k, (build r k t).value.className = (Names.ofTable r.baseNamespace t.name).fullName k ∧
      (render r k t).value.className = (Names.ofTable r.baseNamespace t.name).fullName k) ∧
    StorageLinks r t (build r .storage t).value ∧
    CollectionLinks r t (build r .collection t).value ∧
    DataLinks r t (build r .data t).value := by
  refine ⟨fun k => ⟨className_build r k t, ?_⟩, storageLinks_build r t, collectionLinks_build r t,
    dataLinks_build r t⟩
  rw [render, Warned.value_bind]
  exact className_build r k t

/-- A collection whose base is imported under the name of the data class calls the latter by its
full name. -/
example :
    let r : Rendering :=
      { baseNamespace := "\\App\\", library := { collectionBase := "Lib\\StaffData" } }
    let f := (build r .collection ⟨"staff", [], none⟩).value
    f.declared.parent = some "StaffData" ∧ (f.declared.method? "get").bind (·.returns)
      = some { name := "\\App\\Staff\\Data\\StaffData|false|null" } := by
  decide +kernel

end TableClasses.Classes
