import TableClasses.Classes.Build

/-!
# Collection classes

A collection holds the rows of a table. If the primary key is a value object, the collection knows
the call that turns a key into a text.
-/

namespace TableClasses.Classes

open TableClasses.Code

/-- The property that holds the call for keys. -/
def keySerializer (t : Table) : List Property :=
  match t.keyColumn?.bind (·.valueObject) with
  | some m =>
    [{ name := "idFieldSerializer", visibility := .prot, type := some { name := "string" }
       value := some (.string m.keyCallText) }]
  | none => []

/-- The methods of a collection, which name the data class and the collection interface by the given
references. -/
def collectionMethods (data interface : String) : List Method :=
  let element : TypeRef := { name := data ++ "|false|null" }
  let check := "assert($data === null || $data === false || $data instanceof " ++ data ++ ");"
  [{ name := "create", isStatic := true
     params :=
       [{ name := "data", type := some { name := "iterable" } },
        { name := "idField", type := some { name := "string", nullable := true }
          default := some .null }]
     returns := some { name := interface }
     comment := ["@param iterable<int|string, mixed> $data"]
     body := code ("return new static($data, " ++ data ++ "::class, $idField);") },
   { name := "get"
     params := [{ name := "key", type := some { name := "string|int" } }]
     returns := some element
     body := delegation "get($key)" check },
   { name := "current", returns := some element, body := delegation "current()" check }]

def collectionFile (t : Table) (names : Names) (library : Library) : File :=
  let className := names.className .collection
  let build : Importing ClassDecl := do
    let base ← reference library.collectionBase
    let interface ← reference library.collectionInterface
    let data ← reference (names.fullName .data)
    return { name := className, parent := some base, properties := keySerializer t
             methods := collectionMethods data interface }
  let (declared, imports) := build (importsFor (names.namespaceOf .collection) className)
  { imports, declared }

end TableClasses.Classes
