import TableClasses.Proofs.Catalogs
import TableClasses.Proofs.Histories

/-!
# Tables do not influence each other

A document's tables share one mapper, which remembers what it answered for each of them, also that a
type has no mapping. With mappers that are `Alike` an entry gives the same table, and a run of calls
leaves a mapper alike to one that was just built. So the tables of a document are those of its
entries, one after the other, each normalized alone.
-/

namespace TableClasses.Schema

open TableClasses.ValueObject TableClasses.ValueObject.Mapper

/-- The document with these tables. -/
def tablesDocument (es : Entries Json) : Json := .object [("tables", .object es)]

/-- The tables that a mapper gives for a document with these entries. -/
def tablesIn (overlay : Option Overlay) (m : Mapper) (es : Entries Json) :
    Except SchemaFault (List Table) :=
  (normalize overlay m (tablesDocument es)).map fun w => w.value.1

section
variable (overlay : Option Overlay)

/-! ## One entry -/

theorem tableAlone_of_alike {m m' : Mapper} (h : m.Alike m') (e : String × Json) :
    tableAlone overlay m e = tableAlone overlay m' e := by
  have hcolumn : columnAlone overlay m e.1 = columnAlone overlay m' e.1 :=
    funext (columnAlone_of_alike overlay e.1 h)
  unfold tableAlone
  rw [hcolumn]

theorem name_of_mem_tablesAlone {m : Mapper} {e : String × Json} {t : Table}
    (h : t ∈ tablesAlone overlay m [e]) : t.name = e.1 := by
  obtain ⟨e', he', rfl⟩ := List.mem_map.1 h
  rw [List.mem_singleton.1 (List.mem_of_mem_filter he')]
  rfl

/-! ## All entries -/

theorem tablesAlone_of_alike {m m' : Mapper} (h : m.Alike m') (es : Entries Json) :
    tablesAlone overlay m es = tablesAlone overlay m' es := by
  unfold tablesAlone
  rw [funext (tableAlone_of_alike overlay h)]

theorem tablesAlone_eq_flatMap (m : Mapper) (es : Entries Json) :
    tablesAlone overlay m es = es.flatMap fun e => tablesAlone overlay m [e] := by
  induction es with
  | nil => rfl
  | cons e rest ih =>
    rw [List.flatMap_cons, ← ih]
    unfold tablesAlone
    rw [← List.map_append, ← List.filter_append, List.singleton_append]

theorem tablesIn_eq (m : Mapper) (es : Entries Json) :
    tablesIn overlay m es = .ok (tablesAlone overlay m es) := by
  have hshape : shapeOf (tablesDocument es) = .ok (.catalog, [("tables", .object es)]) := rfl
  exact normalize_catalog overlay m hshape

/-! ## What a name gives -/

theorem filter_name_of_notMem {alone : String × Json → List Table}
    (halone : ∀ e, ∀ t ∈ alone e, t.name = e.1) {name : String} {es : Entries Json}
    (h : name ∉ es.keys) : (es.flatMap alone).filter (fun t => t.name == name) = [] := by
  rw [List.filter_eq_nil_iff]
  intro t ht
  obtain ⟨e, he, hte⟩ := List.mem_flatMap.1 ht
  rw [beq_iff_eq, halone e t hte]
  exact fun heq => h (List.mem_map.2 ⟨e, he, heq⟩)

/-- Where entries have different names, a name picks out what its own entry gives. -/
theorem filter_name_flatMap {alone : String × Json → List Table}
    (halone : ∀ e, ∀ t ∈ alone e, t.name = e.1) {es : Entries Json} (hes : es.keys.Nodup)
    {e : String × Json} (he : e ∈ es) :
    (es.flatMap alone).filter (fun t => t.name == e.1) = alone e := by
  induction es with
  | nil => cases he
  | cons first rest ih =>
    obtain ⟨hfirst, hrest⟩ := List.nodup_cons.1 hes
    rw [List.flatMap_cons, List.filter_append]
    rcases List.mem_cons.1 he with rfl | he
    · have hown : (alone e).filter (fun t => t.name == e.1) = alone e :=
        List.filter_eq_self.2 fun t ht => beq_iff_eq.2 (halone e t ht)
      rw [hown, filter_name_of_notMem halone hfirst, List.append_nil]
    · have hother : (alone first).filter (fun t => t.name == e.1) = [] := by
        rw [List.filter_eq_nil_iff]
        intro t ht
        rw [beq_iff_eq, halone first t ht]
        exact fun heq => hfirst (List.mem_map.2 ⟨e, he, heq.symm⟩)
      rw [hother, ih hrest he, List.nil_append]

end

/-- Whatever a mapper resolved and was taught before, the tables it gives for a document are those
that a mapper just built gives for each entry alone, one after the other. So which other entries a
document has, and in which order, does not matter to what a name gives. -/
theorem tablesIn_run_eq_flatMap (overlay : Option Overlay) (catalog : Catalog) (calls : List Call) :
    ∃ alone : String × Json → List Table,
      (∀ e, tablesIn overlay (build catalog (registered calls)) [e] = .ok (alone e)) ∧
      (∀ es, tablesIn overlay ((ofCatalog catalog).run calls) es = .ok (es.flatMap alone)) ∧
      ∀ es : Entries Json, es.keys.Nodup → ∀ e ∈ es,
        (es.flatMap alone).filter (fun t => t.name == e.1) = alone e := by
  refine ⟨fun e => tablesAlone overlay (build catalog (registered calls)) [e],
    fun e => tablesIn_eq overlay _ [e], fun es => ?_, fun es hes e he => ?_⟩
  · rw [tablesIn_eq, tablesAlone_of_alike overlay (alike_build catalog calls),
      tablesAlone_eq_flatMap]
  · exact filter_name_flatMap (fun e t => name_of_mem_tablesAlone overlay) hes he

/-- A catalog with a class that is first given a family whose method it does not have. -/
def moneyCatalog : Catalog :=
  Catalog.registerAll []
    [{ name := "Shop\\Money"
       methods := [{ name := "of", kind := .onClass, requiredParams := 1 }, { name := "amount" }] }]

def moneyCalls : List Call :=
  [.register "Shop\\Money" { name := "money", fromMethod := "parse", toMethod := "amount" },
   .resolve " \\Shop\\Money",
   .register "\\Shop\\Money" { name := "money", fromMethod := "of", toMethod := "amount" }]

def shopTables : Entries Json :=
  [("broken", .bool true),
   ("orders", .object [("columns", .object
     [("id", .object [("DATA_TYPE", .string "int")]),
      ("price", .object [("DATA_TYPE", .string "Shop\\Money")])])]),
   ("notes", .object [("columns", .object
     [("text", .object [("DATA_TYPE", .string "varchar")])])])]

theorem tablesIn_shopTables :
    ∃ alone : String × Json → List Table,
      (∀ e, tablesIn none (build moneyCatalog (registered moneyCalls)) [e] = .ok (alone e)) ∧
      tablesIn none ((ofCatalog moneyCatalog).run moneyCalls) shopTables
        = .ok (shopTables.flatMap alone) ∧
      (∀ e ∈ shopTables,
        (shopTables.flatMap alone).filter (fun t => t.name == e.1) = alone e) ∧
      (shopTables.flatMap alone).map (fun t =>
          (t.name, t.columns.map fun c => (c.name, c.valueObject.map (·.fromRaw.method))))
        = [("orders", [("id", none), ("price", some "of")]), ("notes", [("text", none)])] := by
  obtain ⟨alone, hone, hall, hname⟩ := tablesIn_run_eq_flatMap none moneyCatalog moneyCalls
  refine ⟨alone, hone, hall shopTables, hname shopTables (by decide), ?_⟩
  have hshop := hall shopTables
  rw [tablesIn_eq, Except.ok.injEq] at hshop
  rw [← hshop]
  decide +kernel

end TableClasses.Schema
