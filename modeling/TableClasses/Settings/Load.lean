import TableClasses.Files.Access
import TableClasses.Report.Error
import TableClasses.Schema.Format
import TableClasses.Settings.Layer
import TableClasses.Settings.Reading

/-!
# Loading settings

`Settings.ofFile` reads exactly what a TOML file says. `Settings.load` takes a file in either format
and environment variables over it, and reads both leniently. A file that is named must be there, as
it is named or with the ending of a format; a file of the usual name is taken if it is there. An
environment variable gives a setting if its name begins with `DATAMODEL_CODEGEN__`, in any case.
-/

namespace TableClasses

open Text Files Schema

/-! ## Files -/

/-- The whole numbers that a reading knows. -/
def Reading.knows (r : Reading) (i : Int) : Bool :=
  match r with
  | .exact => decide (-(Decimal.bound 127 : Int) ≤ i) && decide (i < Decimal.bound 128)
  | .lenient => Decimal.inInt64 i

mutual

/-- A TOML value as a document in which every number is kept, if the reading knows all of them: an
exact one knows the whole numbers of 128 bits and no float that is too large, a lenient one the
whole numbers of 64 bits, and it takes a float that is too large for infinite. Only an exact
reading tells a date or time from a text. -/
def Reading.document? (r : Reading) : Toml → Option Json
  | .bool b => some (.bool b)
  | .integer i => if r.knows i then some (.number (.int i)) else none
  | .float x => some (.number (.float x))
  | .overflow negative =>
    match r with
    | .exact => none
    | .lenient => some (.number (.float (.infinite negative)))
  | .string s => some (.string s)
  | .datetime d =>
    match r with
    | .exact => some (.object [(Toml.datetimeKey, .string d.text)])
    | .lenient => some (.string d.text)
  | .array items => (r.documents? items).map .array
  | .table es => (r.entries? es).map .object

def Reading.documents? (r : Reading) : List Toml → Option (List Json)
  | [] => some []
  | v :: rest => do return (← r.document? v) :: (← r.documents? rest)

def Reading.entries? (r : Reading) : List (String × Toml) → Option (List (String × Json))
  | [] => some []
  | (k, v) :: rest => do return (k, ← r.document? v) :: (← r.entries? rest)

end

/-- The settings of a text in TOML, read exactly. -/
def Settings.ofToml (text : String) : Except Error Settings :=
  let settings? := do
    Reading.exact.settings? (.object (← Reading.exact.entries? (← Toml.parse? text)))
  match settings? with
  | some s => .ok s
  | none => .error .configuration

/-- The entries of a settings file. -/
def settingsEntries? (f : Format) (text : String) : Option (Entries Json) :=
  match f with
  | .toml => (Toml.parse? text).bind Reading.lenient.entries?
  | .json => (Json.parse? text).bind Json.entries?

def formats : List Format := [.toml, .json]

/-- The format whose name is the extension of a path. -/
def exactFormat? (path : String) : Option Format :=
  formats.find? fun f => Path.extension? path == some f.name

/-- A path with an ending behind it. The ending takes the place of a placeholder, which is the
whole name of the file if the path ends in a slash. -/
def withEnding (path ending : String) : String :=
  String.ofList (Path.withExtension ending.toList (path ++ ".placeholder").toList)

variable {m : Type → Type} [Monad m] [Access m]

/-- The first path with a format at which there is a file. -/
def firstFile? : List (String × Format) → m (Option (String × Format))
  | [] => return none
  | (path, f) :: rest => do
    if ← Access.isFile path then return some (path, f) else firstFile? rest

/-- The file that a path means, and its format. -/
def settingsFile? (path : String) : m (Option (String × Format)) := do
  if ← Access.isFile path then return (exactFormat? path).map (path, ·)
  else firstFile? (formats.map fun f => (withEnding path f.name, f))

/-- The name of a settings file that is taken without being asked for. -/
def usualName : String := "datamodel-codegen"

/-- The layer of the settings file; a file that is not required may be missing. -/
def fileLayer (path : String) (required : Bool) : m (Except Error (Entries Json)) := do
  let missing : Except Error (Entries Json) := if required then .error .configuration else .ok []
  match ← settingsFile? path with
  | none => return missing
  | some (path, f) =>
    match ← Access.read path with
    | .error _ => return missing
    | .ok bytes =>
      match settingsEntries? f (String.ofList (decodeLossy (dropMark bytes.toList))) with
      | some es => return .ok es
      | none => return .error .configuration

/-! ## Environment -/

/-- The beginning of the names of variables that give settings, in small letters. -/
def variableMark : String := "datamodel_codegen__"

/-- The value that the text of a variable means: a truth value, a number, or itself. -/
def variableValue (s : String) : Json :=
  if lowerText s = "true" then .bool true
  else if lowerText s = "false" then .bool false
  else
    match Decimal.int64Of? s with
    | some i => .number (.int i)
    | none =>
      match Decimal.binaryOf? s with
      | some x => .number (.float x)
      | none => .string s

/-- The layer of the environment. -/
def environmentLayer (environment : List (String × String)) : Entries Json :=
  .ofList <| environment.filterMap fun (name, s) =>
    (dropPrefix? variableMark.toList (lowerText name).toList).map fun key =>
      (String.ofList key, variableValue s)

namespace Settings

/-- The settings that a TOML file gives, read exactly. -/
def ofFile (path : String) : m (Except Error Settings) := do
  match ← readText path with
  | .error fault => return .error (.file fault)
  | .ok text => return ofToml text

/-- The settings of layers, read leniently. -/
def ofLayers (layers : List (Entries Json)) : Except Error Settings :=
  match Reading.lenient.settings? (layers.foldl Layer.apply (.object [])) with
  | some s => .ok s
  | none => .error .configuration

/-- The settings of a file, of the given or the usual name, and of the environment. -/
def load (path : Option String) (environment : List (String × String)) :
    m (Except Error Settings) := do
  match ← fileLayer (path.getD usualName) path.isSome with
  | .error e => return .error e
  | .ok layer => return ofLayers [layer, environmentLayer environment]

end Settings

end TableClasses
