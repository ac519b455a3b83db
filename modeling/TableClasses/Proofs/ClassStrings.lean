import TableClasses.Classes.Render
import TableClasses.Proofs.CutBodies
import TableClasses.Proofs.Spelling

/-!
# Strings in generated classes

`quotations` lists the strings that a generated class has between quotes, in the order of the text:
defaults of parameters, keys of arrays and rows, the format of dates, the name and the key of the
table. In the text of the class the scanner reads all of them. Values of properties and parameters
and arguments of setters are read as they are; what stands in a body that is cut into lines is read
as it is unless it has a line feed, and then with the indentation of the lines in it.
-/

namespace TableClasses.Classes

open TableClasses.Text TableClasses.Code TableClasses.ValueObject

/-! ## The strings of a class -/

/-- A string that is the value of a variable. -/
def valueQuotation (name string stop : String) : Quotation :=
  { before := "$" ++ name ++ " = ", string, after := stop, cut := false }

/-- The default of a column, where its parameter has a string as default. -/
def defaultQuotations (p : Column × Option Literal) : List Quotation :=
  match p.2 with
  | some (.string _) => p.1.default.toList.map fun text => valueQuotation p.1.field text ",\n"
  | _ => []

/-- The key of a column in the array of `fromArray`. -/
def arrayQuotations (style : Naming.KeyStyle) (c : Column) : List Quotation :=
  [{ before := "$data[", string := style.apply c.name, after := "]", cut := true }]

/-- The key of a column in `toDatabaseArray` and the strings of its value. -/
def entryQuotations (format : String) (c : Column) : List Quotation :=
  { before := "\t", string := c.name, after := " => ", cut := true } :: formatQuotations format c

def dataQuotations (r : Rendering) (t : Table) : List Quotation :=
  (t.readWrite.zip (parameterDefaults t.readWrite).value).flatMap defaultQuotations
    ++ t.readWrite.flatMap (arrayQuotations r.keyStyle)
    ++ (t.readWrite.flatMap (rowQuotations true) ++ t.readOnly.flatMap (rowQuotations false))
    ++ t.readWrite.flatMap (entryQuotations r.datetimeFormat)

/-- The strings of a class. -/
def quotations (r : Rendering) (t : Table) : Kind → List Quotation
  | .data => dataQuotations r t
  | .collection =>
    (t.keyColumn?.bind (·.valueObject)).toList.map fun m =>
      valueQuotation "idFieldSerializer" m.keyCallText ";\n"
  | .storage =>
    valueQuotation "tableName" t.name ";\n"
      :: t.primaryKey.toList.map fun key => valueQuotation "idField" key ";\n"

/-! ## Defaults -/

theorem default_of_string {c : Column} {s : String}
    (h : (defaultLiteral c).value = some (.string s)) : c.default = some s := by
  cases defaultLiteral_eq_some_iff.1 h with
  | string hplain _ => exact hplain.default

/-- A default that is none or the literal of a column. -/
def IsDefaultOf (c : Column) (d : Option Literal) : Prop :=
  ∀ l ∈ d, (defaultLiteral c).value = some l

/-- A parameter has the default of its own column or none. -/
theorem forall₂_parameterDefaults (columns : List Column) :
    List.Forall₂ IsDefaultOf columns (parameterDefaults columns).value := by
  induction columns with
  | nil => exact .nil
  | cons c rest ih =>
    rw [parameterDefaults_cons]
    refine .cons (fun l hl => ?_) ih
    split at hl
    · exact hl
    · cases hl

/-! ## Members -/

/-- A variable with a string as its value. -/
theorem written_value (before name s stop : String) :
    Written [valueQuotation name s stop]
      (before ++ "$" ++ name ++ withOption " = " Literal.text (some (.string s)) ++ stop).toList := by
  have h := (written_quoteString (valueQuotation name s stop)).code before.toList
  simpa [valueQuotation, withOption, Literal.text] using h

theorem written_join {α : Type} {f : α → List Quotation} {items : List α} {parts : List String}
    (h : List.Forall₂ (fun a part => Written (f a) part.toList) items parts) :
    Written (items.flatMap f) (String.join parts).toList := by
  rw [String.toList_join, List.flatMap_def]
  exact .flatten (List.forall₂_map_right_iff.2 h)

theorem written_method {m : Method} {qs qs' : List Quotation}
    (hparams : Written qs m.paramsText.toList)
    (hbody : Written qs' (String.join (m.body.map Method.lineText)).toList) :
    Written (qs ++ qs') m.text.toList := by
  unfold Method.text
  simp only [String.toList_append]
  exact ((((((hparams.code _).followed _).followed _).followed _).append hbody).followed _)

theorem written_of_body {m : Method} {qs : List Quotation}
    (h : Written qs (String.join (m.body.map Method.lineText)).toList) :
    Written qs m.text.toList := written_method (.nil _) h

theorem written_file {f : File} {qss : List (List Quotation)}
    (h : List.Forall₂ (fun qs m => Written qs m.toList) qss f.declared.members) :
    Written qss.flatten f.text.toList := by
  have hmembers : Written (qss.flatMap id) ("\n".toList.intercalate _) :=
    .separated _ (List.forall₂_map_right_iff.2 h)
  rw [List.flatMap_id] at hmembers
  unfold File.text ClassDecl.text
  simp only [String.toList_append, String.toList_intercalate]
  exact ((hmembers.code _).followed _).code _

/-! ## Constructors -/

theorem written_parameter {p : Column × Option Literal} {parameter : Parameter}
    (hname : parameter.name = p.1.field) (hdefault : parameter.default = p.2)
    (h : IsDefaultOf p.1 p.2) :
    Written (defaultQuotations p) ("\t\t" ++ parameter.text ++ ",\n").toList := by
  obtain ⟨c, d⟩ := p
  unfold defaultQuotations
  split
  · next s hs =>
    obtain rfl : d = some (.string s) := hs
    rw [default_of_string (h _ rfl), Parameter.text, hname, hdefault]
    simp only [← String.append_assoc]
    exact written_value _ _ _ _
  · exact .nil _

/-- A parameter of a column, with a default of the column or without. -/
def IsParameterOf (p : Column × Option Literal) (m : Member × Option Literal) : Prop :=
  m.1.column = p.1 ∧ m.2 = p.2 ∧ IsDefaultOf p.1 p.2

theorem forall₂_zip_defaults {columns : List Column} {members : List Member}
    {defaults : List (Option Literal)}
    (hmembers : List.Forall₂ (fun c m => m.column = c) columns members)
    (hdefaults : List.Forall₂ IsDefaultOf columns defaults) :
    List.Forall₂ IsParameterOf (columns.zip defaults) (members.zip defaults) := by
  induction hmembers generalizing defaults with
  | nil => exact .nil
  | cons hmember _ ih =>
    cases hdefaults with
    | cons hdefault hrest => exact .cons ⟨hmember, rfl, hdefault⟩ (ih hrest)

theorem written_constructor {o : Outline} {items : List (Column × Option Literal)}
    (h : List.Forall₂ IsParameterOf items o.parameters) :
    Written (items.flatMap defaultQuotations) o.constructor.text.toList := by
  have hparams : Written (items.flatMap defaultQuotations) o.constructor.paramsText.toList := by
    unfold Method.paramsText
    split
    · rw [String.toList_append, String.toList_append]
      refine ((written_join ?_).code _).followed _
      rw [List.forall₂_map_right_iff, Outline.constructor, List.forall₂_map_right_iff]
      refine h.imp fun p m hm => ?_
      exact written_parameter (congrArg Column.field hm.1) hm.2.1 hm.2.2
    · next hnone =>
      cases items with
      | nil => exact .nil _
      | cons p rest =>
        obtain ⟨m, ms, -, -, hparameters⟩ := List.forall₂_cons_left_iff.1 h
        refine absurd ?_ hnone
        simp [Method.promotes, Outline.constructor, hparameters]
  have hmethod := written_method hparams (.nil _)
  rwa [List.append_nil] at hmethod

/-! ## Conversions -/

/-- A body in one piece is printed with its strings as they are carried. -/
theorem written_code {qs : List Quotation} {s : String} (h : Written qs s.toList)
    (hqs : ∀ q ∈ qs, q.Passes) :
    Written (qs.map Quotation.printed) (String.join ((code s).map Method.lineText)).toList := by
  rw [code, toList_join_lineText]
  exact h.laidOut hqs

section
variable {α : Type} {f : α → List Quotation} {items : List α} {arguments : List Expression}

theorem written_newSelf
    (h : List.Forall₂ (fun a e => Written (f a) e.text.toList) items arguments) :
    Written (items.flatMap f) (newSelf arguments).toList := by
  unfold newSelf
  split
  · next hempty =>
    obtain rfl : arguments = [] := List.isEmpty_iff.1 hempty
    cases h
    exact .nil _
  · simp only [String.toList_append, String.toList_intercalate, List.map_map]
    refine ((Written.separated _ ?_).code _).followed _
    exact List.forall₂_map_right_iff.2 h

/-- A statement with a new object, as it is printed. -/
theorem written_newSelf_code (before : String)
    (h : List.Forall₂ (fun a e => Written (f a) e.text.toList) items arguments)
    (hf : ∀ q ∈ items.flatMap f, q.Passes) :
    Written ((items.flatMap f).map Quotation.printed)
      (String.join ((code (before ++ newSelf arguments ++ ";")).map Method.lineText)).toList := by
  refine written_code ?_ hf
  rw [String.toList_append, String.toList_append]
  exact ((written_newSelf h).code _).followed _

end

theorem passes_arrayQuotations (style : Naming.KeyStyle) (c : Column) :
    ∀ q ∈ arrayQuotations style c, q.Passes := by
  intro q hq
  obtain rfl := List.mem_singleton.1 hq
  exact Quotation.passes _ (by decide) (by decide)

theorem passes_rowQuotations (c : Column) : ∀ q ∈ rowQuotations true c, q.Passes := by
  intro q hq
  have hq' : q = { before := "$row[", string := c.name, after := "]", cut := true } := by
    unfold rowQuotations at hq
    split at hq <;> simpa using hq
  rw [hq']
  exact Quotation.passes _ (by decide) (by decide)

theorem passes_entryQuotations (format : String) (c : Column) :
    ∀ q ∈ entryQuotations format c, q.Passes := by
  refine List.forall_mem_cons.2 ⟨Quotation.passes _ (by decide) (by decide), fun q hq => ?_⟩
  unfold formatQuotations at hq
  split at hq
  · obtain rfl := List.mem_singleton.1 hq
    exact Quotation.passes _ (by decide) (by decide)
  · cases hq

section
variable {o : Outline} {columns readOnly : List Column}

theorem written_fromArray {style : Naming.KeyStyle}
    (h : o.arrayArguments = columns.map fun c => .entry "data" (style.apply c.name)) :
    Written ((columns.flatMap (arrayQuotations style)).map Quotation.printed)
      o.fromArray.text.toList := by
  have harguments : List.Forall₂ (fun c e => Written (arrayQuotations style c) e.text.toList)
      columns o.arrayArguments := by
    rw [h, List.forall₂_map_right_iff, List.forall₂_same]
    intro c _
    exact written_entry (by decide : "$" ++ "data" ++ "[" = "$data[") _ _
  have hpasses : ∀ q ∈ columns.flatMap (arrayQuotations style), q.Passes :=
    List.forall_mem_flatMap.2 fun c _ => passes_arrayQuotations style c
  exact written_of_body (written_newSelf_code "return " harguments hpasses)

/-- A line by itself is printed as it is. -/
theorem written_setterLine {c : Column} {e : Expression} (name : String)
    (h : Written (rowQuotations false c) e.text.toList) :
    Written (rowQuotations false c)
      (Method.lineText ("$instance->" ++ name ++ "(" ++ e.text ++ ");")).toList := by
  have hblank : isAllBlank ("$instance->" ++ name ++ "(" ++ e.text ++ ");") = false := by
    simp [isAllBlank, (by decide : isBlank '$' = false)]
  unfold Method.lineText
  rw [hblank]
  simp only [Bool.false_eq_true, if_false, String.toList_append]
  exact (((h.code _).followed _).code _).followed _

theorem written_setterLines
    (h : List.Forall₂ (fun c e => Written (rowQuotations false c) e.2.text.toList) readOnly
      o.rowSetters) :
    Written (readOnly.flatMap (rowQuotations false))
      (String.join (o.setterLines.map Method.lineText)).toList := by
  have hlines : Written (readOnly.flatMap (rowQuotations false))
      (String.join (o.rowSetters.map fun e =>
        Method.lineText ("$instance->" ++ e.1 ++ "(" ++ e.2.text ++ ");"))).toList := by
    refine written_join (List.forall₂_map_right_iff.2 (h.imp fun c e he => ?_))
    exact written_setterLine e.1 he
  unfold Outline.setterLines
  rw [String.toList_join, List.flatMap_map] at hlines
  simp only [String.toList_join, List.map_append, List.map_map, List.flatMap_append,
    List.flatMap_map, Function.comp_apply]
  exact (hlines.code _).followed _

theorem written_fromRow
    (harguments : List.Forall₂ (fun c e => Written (rowQuotations true c) e.text.toList) columns
      o.rowArguments)
    (hsetters : List.Forall₂ (fun c e => Written (rowQuotations false c) e.2.text.toList) readOnly
      o.rowSetters) :
    Written ((columns.flatMap (rowQuotations true)).map Quotation.printed
      ++ readOnly.flatMap (rowQuotations false)) o.fromRow.text.toList := by
  have hpasses : ∀ q ∈ columns.flatMap (rowQuotations true), q.Passes :=
    List.forall_mem_flatMap.2 fun c _ => passes_rowQuotations c
  refine written_of_body ?_
  unfold Outline.fromRow
  split
  · next hempty =>
    rw [List.isEmpty_iff.1 hempty] at hsetters
    cases hsetters
    rw [List.flatMap_nil, List.append_nil]
    exact written_newSelf_code "return " harguments hpasses
  · have hobject := written_newSelf_code "$instance = " harguments hpasses
    have hboth := hobject.append (written_setterLines hsetters)
    rw [String.toList_join, String.toList_join, ← List.flatMap_append, ← List.map_append,
      ← String.toList_join] at hboth
    exact hboth

theorem written_entry_text {format : String} {c : Column} {e : String × Expression}
    (hname : e.1 = c.name) (h : Written (formatQuotations format c) e.2.text.toList) :
    Written (entryQuotations format c) ("\t" ++ Outline.entryText e).toList := by
  have hkey := written_quoteString
    { before := "\t", string := c.name, after := " => ", cut := true }
  unfold Outline.entryText entryQuotations
  rw [hname]
  simpa using (hkey.append h).followed ",".toList

theorem written_toDatabaseArray {format : String}
    (h : List.Forall₂
      (fun c e => e.1 = c.name ∧ Written (formatQuotations format c) e.2.text.toList) columns
      o.databaseEntries) :
    Written ((columns.flatMap (entryQuotations format)).map Quotation.printed)
      o.toDatabaseArray.text.toList := by
  have hpasses : ∀ q ∈ columns.flatMap (entryQuotations format), q.Passes :=
    List.forall_mem_flatMap.2 fun c _ => passes_entryQuotations format c
  refine written_of_body (written_code ?_ hpasses)
  split
  · next hempty =>
    rw [List.isEmpty_iff.1 hempty] at h
    cases h
    exact .nil _
  · have hentries : Written (columns.flatMap (entryQuotations format))
        ("\t".toList ++ ("\n".toList ++ "\t".toList).intercalate
          (o.databaseEntries.map fun e => (Outline.entryText e).toList)) := by
      refine .intercalate _ _ (List.forall₂_map_right_iff.2 (h.imp fun c e he => ?_))
      rw [← String.toList_append]
      exact written_entry_text he.1 he.2
    simpa [Function.comp_def] using (hentries.code "return [\n".toList).followed "\n];".toList

end

/-! ## Classes -/

theorem map_printed_eq_self {qs : List Quotation} (h : ∀ q ∈ qs, q.cut = false) :
    qs.map Quotation.printed = qs := by
  have hid : ∀ q ∈ qs, q.printed = id q := fun q hq => Quotation.printed_of_not_cut (h q hq)
  rw [List.map_congr_left hid, List.map_id]

theorem written_nothing (members : List String) :
    List.Forall₂ (fun qs m => Written qs m.toList) (List.replicate members.length []) members := by
  induction members with
  | nil => exact .nil
  | cons m rest ih => exact .cons (.nil _) ih

theorem not_cut_defaultQuotations (p : Column × Option Literal) :
    ∀ q ∈ defaultQuotations p, q.cut = false := by
  intro q hq
  unfold defaultQuotations at hq
  split at hq
  · obtain ⟨text, -, rfl⟩ := List.mem_map.1 hq
    rfl
  · cases hq

theorem not_cut_rowQuotations (c : Column) : ∀ q ∈ rowQuotations false c, q.cut = false := by
  intro q hq
  unfold rowQuotations at hq
  split at hq <;> simp_all

/-- A class whose methods have no strings. -/
theorem written_of_properties {f : File} {qss : List (List Quotation)}
    (h : List.Forall₂ (fun qs m => Written qs m.toList) qss
      (f.declared.properties.map Property.text)) : Written qss.flatten f.text.toList := by
  have hmembers : List.Forall₂ (fun qs m => Written qs m.toList) (qss ++ _) f.declared.members :=
    List.rel_append h (written_nothing (f.declared.methods.map Method.text))
  have htext := written_file hmembers
  rwa [List.flatten_append, List.flatten_replicate_nil, List.append_nil] at htext

/-- A class whose properties have no strings. -/
theorem written_of_methods {f : File} {qss : List (List Quotation)}
    (h : List.Forall₂ (fun qs m => Written qs m.toList) qss
      (f.declared.methods.map Method.text)) : Written qss.flatten f.text.toList := by
  have hmembers : List.Forall₂ (fun qs m => Written qs m.toList) (_ ++ qss) f.declared.members :=
    List.rel_append (written_nothing (f.declared.properties.map Property.text)) h
  have htext := written_file hmembers
  rwa [List.flatten_append, List.flatten_replicate_nil, List.nil_append] at htext

theorem written_dataFile (r : Rendering) (t : Table) (names : Names) :
    Written ((dataQuotations r t).map Quotation.printed) (dataFile t names r).value.text.toList := by
  have hcut : Built t (fun _ c e => Written (rowQuotations true c) e.text.toList)
      (fun _ c e => Written (formatQuotations r.datetimeFormat c) e.text.toList)
      (dataOutline t names r).2 (dataOutline t names r).1 :=
    built_dataOutline (fun c _ => lasting_written_hydrate true c)
      fun c _ => lasting_written_dehydrate r.datetimeFormat c
  have hwhole : Built t (fun _ c e => Written (rowQuotations false c) e.text.toList)
      (fun _ c e => Written (formatQuotations r.datetimeFormat c) e.text.toList)
      (dataOutline t names r).2 (dataOutline t names r).1 :=
    built_dataOutline (fun c _ => lasting_written_hydrate false c)
      fun c _ => lasting_written_dehydrate r.datetimeFormat c
  obtain ⟨members, hmembers, hparameters⟩ := dataOutline_parameters t names r
  have hconstructor := forall₂_zip_defaults hmembers (forall₂_parameterDefaults t.readWrite)
  rw [← hparameters] at hconstructor
  have hsetters : List.Forall₂ (fun c e => Written (rowQuotations false c) e.2.text.toList)
      t.readOnly (dataOutline t names r).1.rowSetters :=
    hwhole.rowSetters.imp fun _ _ he => he.2
  have hmethods : List.Forall₂ (fun qs m => Written qs m.toList) _
      ((dataOutline t names r).1.methods.map Method.text) :=
    .cons (written_constructor hconstructor) <|
    .cons (written_fromArray (dataOutline_arrayArguments t names r)) <|
    .cons (written_fromRow hcut.rowArguments hsetters) <|
    .cons (.nil _) <|
    .cons (written_toDatabaseArray hcut.databaseEntries) (written_nothing _)
  have hdefaults : ((t.readWrite.zip (parameterDefaults t.readWrite).value).flatMap
      defaultQuotations).map Quotation.printed = _ :=
    map_printed_eq_self (List.forall_mem_flatMap.2 fun p _ => not_cut_defaultQuotations p)
  have hreadOnly : (t.readOnly.flatMap (rowQuotations false)).map Quotation.printed = _ :=
    map_printed_eq_self (List.forall_mem_flatMap.2 fun c _ => not_cut_rowQuotations c)
  have htext := written_of_methods (f := (dataFile t names r).value) (by
    rw [dataFile_value]
    exact hmethods)
  simpa [dataQuotations, hdefaults, hreadOnly] using htext

theorem written_property {p : Property} {name s : String} (hname : p.name = name)
    (hvalue : p.value = some (.string s)) :
    Written [valueQuotation name s ";\n"] p.text.toList := by
  unfold Property.text
  rw [hname, hvalue]
  have h := written_value
    ("\t" ++ p.visibility.text ++ withOption " " TypeRef.text p.type ++ " ") name s ";\n"
  simpa [String.append_assoc] using h

theorem collectionFile_properties (t : Table) (names : Names) (library : Library) :
    (collectionFile t names library).declared.properties = keySerializer t := by
  unfold collectionFile
  simp only [importing_bind, importing_pure]

theorem storageFile_properties (t : Table) (names : Names) (library : Library) :
    ∃ data collection, (storageFile t names library).declared.properties
      = storageProperties t data collection := by
  unfold storageFile
  simp only [importing_bind, importing_pure]
  exact ⟨_, _, rfl⟩

theorem written_collectionFile (r : Rendering) (t : Table) (names : Names) :
    Written ((quotations r t .collection).map Quotation.printed)
      (collectionFile t names r.library).text.toList := by
  have hproperties := collectionFile_properties t names r.library
  unfold quotations
  unfold keySerializer at hproperties
  cases hkey : t.keyColumn?.bind (·.valueObject) with
  | none => exact .nil _
  | some m =>
    have hwritten : List.Forall₂ (fun qs p => Written qs p.toList)
        [[valueQuotation "idFieldSerializer" m.keyCallText ";\n"]]
        ((collectionFile t names r.library).declared.properties.map Property.text) := by
      rw [hproperties, hkey]
      exact .cons (written_property rfl rfl) .nil
    exact written_of_properties hwritten

theorem written_storageFile (r : Rendering) (t : Table) (names : Names) :
    Written ((quotations r t .storage).map Quotation.printed)
      (storageFile t names r.library).text.toList := by
  obtain ⟨data, collection, hproperties⟩ := storageFile_properties t names r.library
  have hwritten : List.Forall₂ (fun qs p => Written qs p.toList)
      [[valueQuotation "tableName" t.name ";\n"],
        t.primaryKey.toList.map fun key => valueQuotation "idField" key ";\n", [], []]
      ((storageFile t names r.library).declared.properties.map Property.text) := by
    rw [hproperties]
    refine .cons (written_property rfl rfl) (.cons ?_ (.cons (.nil _) (.cons (.nil _) .nil)))
    cases t.primaryKey with
    | none => exact .nil _
    | some key => exact written_property rfl rfl
  have htext := written_of_properties hwritten
  have huncut : ∀ q ∈ quotations r t .storage, q.cut = false := by
    simp [quotations, valueQuotation]
  rw [map_printed_eq_self huncut]
  simpa [quotations] using htext

theorem written_build (r : Rendering) (k : Kind) (t : Table) :
    Written ((quotations r t k).map Quotation.printed) (build r k t).value.text.toList := by
  cases k with
  | data => exact written_dataFile r t (.ofTable r.baseNamespace t.name)
  | collection => exact written_collectionFile r t (.ofTable r.baseNamespace t.name)
  | storage => exact written_storageFile r t (.ofTable r.baseNamespace t.name)

theorem content_render (r : Rendering) (k : Kind) (t : Table) :
    (render r k t).value.content = (build r k t).value.text := by
  rw [render, Warned.value_bind, Warned.value_pure]

/-- In the text of every class the scanner reads the strings of the class, one after the other and
each between the code next to it, as they are printed: with its own characters, unless it has a line
feed and stands in a body that is cut into lines. -/
theorem reads_quotations (r : Rendering) (k : Kind) (t : Table) :
    Reads ((quotations r t k).map Quotation.printed) (render r k t).value.content.toList ∧
      ∀ q ∈ quotations r t k,
        q.printed.string = q.string ↔ (q.cut = true → '\n' ∉ q.string.toList) := by
  refine ⟨?_, fun q _ => q.printed_string_eq_iff⟩
  rw [content_render]
  exact (written_build r k t).reads

/-- A table with quotes, backslashes and line feeds in the name and the default of a column. -/
def awkwardTable : Table :=
  { name := "it's"
    columns :=
      [{ name := "a\nb", scalar := .string, nullable := true, default := some "it's\n\\" },
       { name := "seen\nat", scalar := .datetime, readOnly := true }]
    primaryKey := none }

/-- The strings that are read in the data class of that table. -/
def awkwardQuotations : List Quotation :=
  [{ before := "$aB = ", string := "it's\n\\", after := ",\n", cut := false },
   { before := "$data[", string := "aB", after := "]", cut := true },
   { before := "$row[", string := "a\n\t\tb", after := "]", cut := true },
   { before := "$row[", string := "a\n\t\tb", after := "]", cut := true },
   { before := "$row[", string := "seen\nat", after := "]", cut := false },
   { before := "\t", string := "a\n\t\tb", after := " => ", cut := true }]

theorem reads_awkwardTable :
    Reads awkwardQuotations (render {} .data awkwardTable).value.content.toList ∧
      (valueQuotation "aB" "it's\n\\" ",\n").printed.string = "it's\n\\" := by
  have h := reads_quotations {} .data awkwardTable
  have hprinted : (quotations {} awkwardTable .data).map Quotation.printed = awkwardQuotations := by
    decide +kernel
  refine ⟨hprinted ▸ h.1, ?_⟩
  exact (h.2 (valueQuotation "aB" "it's\n\\" ",\n") (by decide +kernel)).2
    fun hcut => absurd hcut (by decide)

/-! ## A string that is lost -/

/-- What stands in a file before the members of its class. -/
def beforeMembers (f : File) : String :=
  "<?php\n\n" ++ (if f.strictTypes then "declare(strict_types=1);\n\n" else "")
    ++ (if f.imports.name = "" then "" else "namespace " ++ f.imports.name ++ ";\n\n")
    ++ f.importsText ++ "class " ++ f.declared.name ++ withOption " extends " id f.declared.parent
    ++ (if f.declared.interfaces.isEmpty then ""
      else " implements " ++ ", ".intercalate f.declared.interfaces)
    ++ "\n\x7b\n"

theorem not_mem_text {c : Char} {f : File} (hbefore : c ∉ (beforeMembers f).toList)
    (hstop : c ∉ "\n".toList) (hmembers : ∀ m ∈ f.declared.members, c ∉ m.toList)
    (hend : c ∉ "\x7d\n".toList) : c ∉ f.text.toList := by
  have htext : f.text = beforeMembers f ++ "\n".intercalate f.declared.members ++ "\x7d\n" := by
    delta beforeMembers
    simp only [File.text, ClassDecl.text, String.append_assoc]
  have hjoined : c ∉ ("\n".intercalate f.declared.members).toList := by
    rw [String.toList_intercalate]
    refine not_mem_intercalate hstop fun part hpart => ?_
    obtain ⟨m, hm, rfl⟩ := List.mem_map.1 hpart
    exact hmembers m hm
  rw [htext, String.toList_append, String.toList_append, List.mem_append, List.mem_append, not_or,
    not_or]
  exact ⟨⟨hbefore, hjoined⟩, hend⟩

/-- A table with the ending of a line in the name of its column. -/
def brokenTable : Table :=
  { name := "t", columns := [{ name := "a\r\nb", scalar := .int }], primaryKey := none }

/-- The tree of its data class. -/
def brokenFile : File := (build {} .data brokenTable).value

/-- The carriage return of the name is nowhere in the class. -/
theorem return_not_mem_brokenFile : '\r' ∉ brokenFile.text.toList := by
  have hproperties : brokenFile.declared.properties = [] := by decide +kernel
  have hmethods : ∀ m ∈ brokenFile.declared.methods, '\r' ∉ m.text.toList := by
    simp only [Method.text, String.toList_append, List.mem_append, not_or, String.toList_join]
    decide +kernel
  refine not_mem_text (by decide +kernel) (by decide) ?_ (by decide)
  rw [ClassDecl.members, hproperties, List.map_nil, List.nil_append]
  intro text htext
  obtain ⟨m, hm, rfl⟩ := List.mem_map.1 htext
  exact hmethods m hm

theorem not_reads_brokenTable :
    ¬ Reads (quotations {} brokenTable .data) (render {} .data brokenTable).value.content.toList := by
  rw [content_render, ← brokenFile]
  intro h
  have hplain : ("a\r\nb".toList.all fun c => c != '\\' && c != '\'') = true := by decide +kernel
  have hname := h.infix_of_mem
    (q := { before := "$row[", string := "a\r\nb", after := "]", cut := true })
    (by decide +kernel) (fun c hc => by simpa using List.all_eq_true.1 hplain c hc)
  have hreturn : '\r' ∈ "a\r\nb".toList := by decide +kernel
  exact return_not_mem_brokenFile (hname.subset hreturn)

end TableClasses.Classes
