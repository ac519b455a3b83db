import TableClasses.Toml.Value

/-!
# Tables under construction

A document defines its tables piece by piece. `Node` records, beside what a table holds, how it came
about: named in a header, only passed on the way to a header's table, or passed by a dotted key. A
header may open a table that was only passed on the way; a dotted key may not reach into a table
that a header has named; values and tables in braces are closed. A table stands where it was first
mentioned, but one that was only passed on the way moves to the end when a header opens it.
-/

namespace TableClasses.Toml

/-- How a table came about. -/
inductive Origin where
  | named
  | passed
  | dotted
  deriving DecidableEq, Repr

/-- A value, a table, or a list of tables whose last one is open. -/
inductive Node where
  | leaf (value : Toml)
  | table (origin : Origin) (children : List (String × Node))
  | tables (items : List (List (String × Node)))

/-- What a table holds so far. -/
abbrev Children := Entries Node

mutual

def Node.toToml : Node → Toml
  | .leaf v => v
  | .table _ children => .table (childrenToToml children)
  | .tables items => .array (itemsToToml items)

def childrenToToml : List (String × Node) → List (String × Toml)
  | [] => []
  | (k, n) :: rest => (k, n.toToml) :: childrenToToml rest

def itemsToToml : List (List (String × Node)) → List Toml
  | [] => []
  | children :: rest => .table (childrenToToml children) :: itemsToToml rest

end

/-- A change of a table, which may be refused. -/
abbrev Change := Origin → Children → Option Children

/-- Changes the table at the end of a path. Tables missing on the way are made with the origin
`step`; a list of tables is entered at its last one. -/
def descend (step : Origin) (change : Change) : List String → Change
  | [], origin, children => change origin children
  | key :: path, _, children =>
    match children.get? key with
    | none => (descend step change path step []).map fun sub => children.put key (.table step sub)
    | some (.table origin sub) =>
      if step = .dotted ∧ origin = .named then none
      else
        (descend step change path origin sub).map fun sub => children.put key (.table origin sub)
    | some (.tables items) =>
      (descend step change path .named (items.getLast?.getD [])).map fun sub =>
        children.put key (.tables (items.dropLast ++ [sub]))
    | some (.leaf _) => none

/-- Opens the table that a header names. -/
def openTable (key : String) : Change := fun _ children =>
  match children.get? key with
  | none => some (children.put key (.table .named []))
  | some (.table .passed sub) => some ((children.erase key).put key (.table .named sub))
  | some _ => none

/-- Opens a further table of the list that a header names. -/
def openItem (key : String) : Change := fun _ children =>
  match children.get? key with
  | none => some (children.put key (.tables [[]]))
  | some (.tables items) => some (children.put key (.tables (items ++ [[]])))
  | some _ => none

/-- Sets a value whose key is not there yet. After dots the table must have come about by dots. -/
def setValue (afterDots : Bool) (key : String) (value : Toml) : Change := fun origin children =>
  if (afterDots = true ∧ origin ≠ .dotted) ∨ children.has key = true then none
  else some (children.put key (.leaf value))

/-- Sets a value under a key with dots. -/
def setDotted (path : List String) (key : String) (value : Toml) : Change :=
  descend .dotted (setValue (!path.isEmpty) key value) path

end TableClasses.Toml
