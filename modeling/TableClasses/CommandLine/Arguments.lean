import TableClasses.Settings
import TableClasses.Text.Split

/-!
# Arguments

The command line names a table and kinds of classes, with options before, between and behind them:
long ones behind two dashes, whose value stands behind an equals sign or is the next argument, and
short ones behind one dash, which may be run together. No option may be given twice. After two
dashes alone everything is a name. A word that names a command ends the options; it is an ordinary
name right behind the name of a kind.
-/

namespace TableClasses.CommandLine

open Text

/-- Options with a value. -/
inductive Setting where
  | config
  | schema
  | overlay
  | output
  | baseNamespace
  | ignoredNamespace
  deriving DecidableEq, Repr

/-- Options without a value. -/
inductive Switch where
  | dryRun
  | force
  | print
  deriving DecidableEq, Repr

inductive Command where
  | generate
  | inspect
  deriving DecidableEq, Repr

/-- What an option is. -/
inductive Name where
  | setting (s : Setting)
  | switch (s : Switch)
  | version
  | help
  deriving DecidableEq, Repr

namespace Name

def ofLong? (s : String) : Option Name :=
  match s with
  | "config" => some (setting .config)
  | "schema" => some (setting .schema)
  | "meta" => some (setting .overlay)
  | "output" => some (setting .output)
  | "namespace" => some (setting .baseNamespace)
  | "ignored-namespace" => some (setting .ignoredNamespace)
  | "dry-run" => some (switch .dryRun)
  | "force" => some (switch .force)
  | "print" => some (switch .print)
  | "version" => some version
  | "help" => some help
  | _ => none

def ofShort? (c : Char) : Option Name :=
  match c with
  | 'c' => some (setting .config)
  | 's' => some (setting .schema)
  | 'm' => some (setting .overlay)
  | 'o' => some (setting .output)
  | 'I' => some (setting .ignoredNamespace)
  | 'f' => some (switch .force)
  | 'p' => some (switch .print)
  | 'V' => some version
  | 'h' => some help
  | _ => none

end Name

/-- Whether a value must not be empty. -/
def Setting.isPath : Setting → Bool
  | baseNamespace => false
  | ignoredNamespace => false
  | _ => true

/-! ## One argument -/

/-- An option as it is written. -/
inductive Mark where
  | setting (s : Setting) (value : Option String)
  | switch (s : Switch)
  | version
  | help
  | unknown
  deriving DecidableEq, Repr

/-- The value that stands behind the letter of an option. -/
def attached : List Char → Option String
  | [] => none
  | '=' :: value => some (String.ofList value)
  | value => some (String.ofList value)

/-- The options behind one dash, up to one that takes the rest as its value. -/
def shortMarks : List Char → List Mark
  | [] => []
  | c :: rest =>
    match Name.ofShort? c with
    | some (.setting s) => [.setting s (attached rest)]
    | some (.switch s) => .switch s :: shortMarks rest
    | some .version => [.version]
    | some .help => [.help]
    | none => [.unknown]

/-- The option behind two dashes. -/
def longMark (s : List Char) : Mark :=
  let name := String.ofList (s.takeWhile (· != '='))
  let value := match s.dropWhile (· != '=') with
    | [] => none
    | _ :: v => some (String.ofList v)
  match Name.ofLong? name, value with
  | some (.setting s), v => .setting s v
  | some (.switch s), none => .switch s
  | some .version, none => .version
  | some .help, none => .help
  | _, _ => .unknown

/-- The options that an argument consists of, if it is not a name or a value. -/
def marks? (argument : String) : Option (List Mark) :=
  match argument.toList with
  | '-' :: '-' :: s => some [longMark s]
  | '-' :: c :: s => some (shortMarks (c :: s))
  | _ => none

/-! ## All arguments -/

structure Arguments where
  settings : List (Setting × String) := []
  switches : List Switch := []
  /-- The table and the kinds. -/
  names : List String := []
  command : Option Command := none
  deriving DecidableEq, Repr

/-- What the arguments ask for. -/
inductive Request where
  | run (arguments : Arguments)
  | version
  | help
  | refused
  deriving DecidableEq, Repr

namespace Arguments

/-- Sets an option, unless it is set already or its value may not be empty. -/
def set? (a : Arguments) (s : Setting) (value : String) : Option Arguments :=
  if (a.settings.lookup s).isSome || s.isPath && value == "" then none
  else some { a with settings := a.settings ++ [(s, value)] }

def switch? (a : Arguments) (s : Switch) : Option Arguments :=
  if s ∈ a.switches then none else some { a with switches := a.switches ++ [s] }

/-- The arguments after some options, and the setting that waits for its value. -/
inductive Progress where
  | ready (arguments : Arguments)
  | waiting (arguments : Arguments) (s : Setting)
  | ended (request : Request)

def take (a : Arguments) : List Mark → Progress
  | [] => .ready a
  | .setting s none :: _ => .waiting a s
  | .setting s (some v) :: rest =>
    match a.set? s v with
    | some a => take a rest
    | none => .ended .refused
  | .switch s :: rest =>
    match a.switch? s with
    | some a => take a rest
    | none => .ended .refused
  | .version :: _ => .ended .version
  | .help :: _ => .ended .help
  | .unknown :: _ => .ended .refused

/-- The words that are commands. -/
def commandWords : List String := ["generate", "inspect", "help"]

/-- What follows a command: nothing, or a call for help. -/
def afterCommand (a : Arguments) (c : Command) (rest : List String) : Request :=
  match rest with
  | [] => .run { a with command := some c }
  | ["--"] => .run { a with command := some c }
  | word :: _ =>
    match marks? word with
    | some (.help :: _) => .help
    | _ => .refused

/-- What follows the command for help: nothing, or a command. -/
def afterHelp (rest : List String) : Request :=
  match rest with
  | [] => .help
  | [word] => if word ∈ commandWords then .help else .refused
  | _ => .refused

/-- Reads arguments; `behindKind` says that the last one was the name of a kind. -/
def readFrom (a : Arguments) (behindKind : Bool) : List String → Request
  | [] => .run a
  | "--" :: rest => .run { a with names := a.names ++ rest }
  | word :: rest =>
    match marks? word with
    | some marks =>
      match a.take marks with
      | .ended request => request
      | .ready a => readFrom a false rest
      | .waiting a s =>
        match rest with
        | [] => .refused
        | value :: rest =>
          if (marks? value).isSome then .refused
          else
            match a.set? s value with
            | some a => readFrom a false rest
            | none => .refused
    | none =>
      if !behindKind && word == "generate" then a.afterCommand .generate rest
      else if !behindKind && word == "inspect" then a.afterCommand .inspect rest
      else if !behindKind && word == "help" then afterHelp rest
      else readFrom { a with names := a.names ++ [word] } (!a.names.isEmpty) rest

/-- What a list of arguments asks for. -/
def read (arguments : List String) : Request := readFrom {} false arguments

/-! ## Settings -/

def value? (a : Arguments) (s : Setting) : Option String := a.settings.lookup s

/-- The table that the names give over the one of the settings. -/
def tableOver (a : Arguments) (table : Option String) : Option String :=
  match a.names with
  | [] => table
  | name :: _ => if name = Settings.allTables then none else some name

/-- Settings with the arguments over them. -/
def applyTo (a : Arguments) (s : Settings) : Settings :=
  { s with
    schemaFile := (a.value? .schema).getD s.schemaFile
    metaFile := a.value? .overlay <|> s.metaFile
    table := a.tableOver s.table
    artifacts := match a.names with
      | _ :: kind :: kinds => kind :: kinds
      | _ => s.artifacts
    rendering := { s.rendering with
      baseNamespace := (a.value? .baseNamespace).getD s.rendering.baseNamespace }
    output := { s.output with
      directory := (a.value? .output).getD s.output.directory
      ignoredNamespace := (a.value? .ignoredNamespace).getD s.output.ignoredNamespace
      dryRun := s.output.dryRun || a.switches.contains .dryRun
      force := s.output.force || a.switches.contains .force
      print := s.output.print || a.switches.contains .print } }

end Arguments

end TableClasses.CommandLine
