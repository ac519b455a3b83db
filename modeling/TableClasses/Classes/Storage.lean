import TableClasses.Classes.Build

/-!
# Storage classes

A storage finds the rows of a table, one at a time or as a collection, by key or by criteria.
-/

namespace TableClasses.Classes

open TableClasses.Code

/-- The properties that name the table, its key and the classes of its rows and collections. -/
def storageProperties (t : Table) (data collection : String) : List Property :=
  let text : TypeRef := { name := "string" }
  [{ name := "tableName", visibility := .prot, type := some text, value := some (.string t.name) },
   { name := "idField", visibility := .prot, type := some { text with nullable := true }
     value := some (match t.primaryKey with | some key => .string key | none => .null) },
   { name := "rowFactoryClass", visibility := .prot, type := some text
     value := some (.code (data ++ "::class")) },
   { name := "collectionFactory", visibility := .prot, type := some text
     value := some (.code (collection ++ "::class")) }]

/-- The parameters that restrict how many rows are found. -/
def pageParams : List Parameter :=
  [{ name := "limit", type := some { name := "int", nullable := true }, default := some .null },
   { name := "offset", type := some { name := "int", nullable := true }, default := some .null }]

def storageMethods (data collection : String) : List Method :=
  let single : TypeRef := { name := data, nullable := true }
  let singleCheck := "assert($data === null || $data instanceof " ++ data ++ ");"
  let many : TypeRef := { name := collection }
  let manyCheck := "assert($data instanceof " ++ collection ++ ");"
  let manyComment := "@return " ++ collection ++ "<int|string, " ++ data ++ ">"
  let array : TypeRef := { name := "array" }
  [{ name := "findOne"
     params := [{ name := "id", type := some { name := "string|int" } }]
     returns := some single
     comment := ["@param string|int $id"]
     body := delegation "findOne($id)" singleCheck },
   { name := "findOneByCriteria"
     params := [{ name := "criteria", type := some array }]
     returns := some single
     comment := ["@param array<int|string, mixed> $criteria"]
     body := delegation "findOneByCriteria($criteria)" singleCheck },
   { name := "find"
     params := { name := "ids", type := some array } :: pageParams
     returns := some many
     comment := ["@param array<int|string, mixed> $ids", "", manyComment]
     body := delegation "find($ids, $limit, $offset)" manyCheck },
   { name := "findAll"
     params := pageParams
     returns := some many
     comment := [manyComment]
     body := delegation "findAll($limit, $offset)" manyCheck },
   { name := "findByCriteria"
     params := { name := "criteria", type := some array } :: pageParams
     returns := some many
     comment := ["@param array<int|string, mixed> $criteria", "", manyComment]
     body := delegation "findByCriteria($criteria, $limit, $offset)" manyCheck }]

def storageFile (t : Table) (names : Names) (library : Library) : File :=
  let className := names.className .storage
  let build : Importing ClassDecl := do
    let base ← reference library.storageBase
    let data ← reference (names.fullName .data)
    let collection ← reference (names.fullName .collection)
    return { name := className, parent := some base
             properties := storageProperties t data collection
             methods := storageMethods data collection }
  let (declared, imports) := build (importsFor (names.namespaceOf .storage) className)
  { imports, declared }

end TableClasses.Classes
