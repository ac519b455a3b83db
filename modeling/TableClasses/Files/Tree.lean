import TableClasses.Files.Access
import TableClasses.Files.Directories

/-!
# Trees of files

A working directory with the files and directories below it. A path is followed name by name, an
empty name and a dot staying where they are and two dots going up. Only a directory can be gone
through, also by a slash at the end of a path. Paths that leave the working directory lead nowhere.

A file or directory is made only in a directory that is there. `addFile` makes the missing ones
first.
-/

namespace TableClasses.Files

open TableClasses.Text

/-- The names that lead from the working directory to a file or directory. -/
abbrev Place := List String

inductive Node where
  | directory
  | file (bytes : ByteArray)

structure Tree where
  nodes : List (Place × Node) := []

namespace Tree

def node? (t : Tree) (place : Place) : Option Node :=
  if place = [] then some .directory else t.nodes.lookup place

/-- Puts a file or directory at a place. -/
def set (t : Tree) (place : Place) (n : Node) : Tree :=
  ⟨(place, n) :: t.nodes.filter (·.1 != place)⟩

/-- The tree without a place and all that is below it. -/
def erase (t : Tree) (place : Place) : Tree := ⟨t.nodes.filter fun e => !place.isPrefixOf e.1⟩

/-! ## Following paths -/

/-- The greatest number of bytes of a name. -/
def nameLimit : Nat := 255

/-- The number of bytes that a path does not reach. -/
def pathLimit : Nat := 4096

/-- The names of a path, empty ones included. -/
def namesOf (path : String) : Except Fault (List String) :=
  if path.toList.contains (Char.ofNat 0) then .error .nulInPath
  else if pathLimit ≤ path.utf8ByteSize then .error .nameTooLong
  else
    match path.toList with
    | [] => .error .notFound
    | '/' :: _ => .error .notFound
    | _ => .ok (splitAt '/' path)

/-- Requires that there is a directory at a place. -/
def directory (t : Tree) (place : Place) : Except Fault Place :=
  match t.node? place with
  | none => .error .notFound
  | some (.file _) => .error .notADirectory
  | some .directory => .ok place

/-- Goes from a directory to what has a name in it, which need not be there. -/
def enter (t : Tree) (place : Place) (name : String) : Except Fault Place := do
  let place ← t.directory place
  if name = "" ∨ name = "." then .ok place
  else if name = ".." then (if place = [] then .error .notFound else .ok place.dropLast)
  else if nameLimit < name.utf8ByteSize then .error .nameTooLong
  else .ok (place ++ [name])

/-- What a path leads to. -/
def find (t : Tree) (path : String) : Except Fault (Place × Node) := do
  let place ← (← namesOf path).foldlM t.enter []
  match t.node? place with
  | some n => .ok (place, n)
  | none => .error .notFound

def isDirectory (t : Tree) (path : String) : Bool :=
  match t.find path with
  | .ok (_, .directory) => true
  | _ => false

def read (t : Tree) (path : String) : Except Fault ByteArray := do
  match ← t.find path with
  | (_, .file bytes) => .ok bytes
  | (_, .directory) => .error .isADirectory

/-! ## Making files and directories -/

/-- Where a path wants something made: in a directory that is there, under a name. -/
structure Target where
  parent : Place
  name : String
  /-- Whether a slash follows the name. -/
  slash : Bool

namespace Target

def place (g : Target) : Place := g.parent ++ [g.name]

/-- Whether the name is that of a new thing. -/
def isPlain (g : Target) : Bool := g.name != "." && g.name != ".."

def isTooLong (g : Target) : Bool := decide (nameLimit < g.name.utf8ByteSize)

end Target

def target (t : Tree) (path : String) : Except Fault Target := do
  let names := (← namesOf path).reverse
  match names.dropWhile (· == "") with
  | [] => .error .notFound
  | name :: up =>
    let parent ← t.directory (← up.reverse.foldlM t.enter [])
    return { parent, name, slash := names.head? == some "" }

/-- Makes a directory in one that is there. -/
def makeDirectory (t : Tree) (path : String) : Except Fault Tree := do
  let g ← t.target path
  if !g.isPlain then .error .alreadyExists
  else if g.isTooLong then .error .nameTooLong
  else if (t.node? g.place).isSome then .error .alreadyExists
  else .ok (t.set g.place .directory)

/-- Makes or replaces a file in a directory that is there. -/
def makeFile (t : Tree) (path : String) (bytes : ByteArray) : Except Fault Tree := do
  let g ← t.target path
  if g.slash || !g.isPlain then .error .isADirectory
  else if g.isTooLong then .error .nameTooLong
  else
    match t.node? g.place with
    | some .directory => .error .isADirectory
    | _ => .ok (t.set g.place (.file bytes))

/-- A change of the tree, which stays as it was if there is a fault. -/
def change (f : Tree → Except Fault Tree) : StateM Tree (Except Fault Unit) := fun t =>
  match f t with
  | .ok changed => (.ok (), changed)
  | .error fault => (.error fault, t)

def directoryMaker : DirectoryMaker (StateM Tree) where
  make path := change (·.makeDirectory path)
  isDirectory path := fun t => (t.isDirectory path, t)

/-- Makes a directory, with the missing ones above it. -/
def addDirectory (path : String) : StateM Tree (Except Fault Unit) :=
  directoryMaker.makeAll (stepsOf path)

/-- Writes a file, with the missing directories above it. -/
def addFile (path : String) (bytes : ByteArray) : StateM Tree (Except Fault Unit) := do
  match ← directoryMaker.makeAll (directorySteps path) with
  | .ok () => change (·.makeFile path bytes)
  | failed => return failed

/-- The tree without what a path leads to. -/
def remove (t : Tree) (path : String) : Tree :=
  match t.find path with
  | .ok (place, _) => t.erase place
  | .error _ => t

instance : Access (StateM Tree) where
  present path := fun t => ((t.find path).isOk, t)
  isFile path := fun t => ((t.read path).isOk, t)
  read path := fun t => (t.read path, t)
  write path text := addFile path text.toUTF8

end Tree

end TableClasses.Files
