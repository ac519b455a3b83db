import TableClasses.Toml.Tree
import TableClasses.Toml.Scalar

/-!
# Reading TOML documents

Arrays and tables in braces may run over several lines with comments between their parts, and a
comma may follow the last part. They nest to 80 levels, and a key has at most 80 parts. A document
is a sequence of lines: a header, a key with its value, or nothing, each with an optional comment.
`fuel` bounds the number of parts read; `Toml.parse?` supplies more of it than the text has
characters.
-/

namespace TableClasses.Toml

/-- The deepest nesting of values, and the longest key, that is read. -/
def maxDepth : Nat := 80

def isWhite (c : Char) : Bool := c == ' ' || c == '\t'

def skipWhite (s : List Char) : List Char := s.dropWhile isWhite

/-- Skips blanks, line endings and comments. -/
def skipFiller : Bool → List Char → Option (List Char)
  | _, [] => some []
  | _, '\n' :: s => skipFiller false s
  | _, '\r' :: '\n' :: s => skipFiller false s
  | true, c :: s => if isPlain c then skipFiller true s else none
  | false, c :: s =>
    if isWhite c then skipFiller false s
    else if c = '#' then skipFiller true s
    else some (c :: s)

/-! ## Keys -/

def isBareKeyChar (c : Char) : Bool := c.isAlphanum || c == '_' || c == '-'

def readSimpleKey (s : List Char) : Option (String × List Char) :=
  match s with
  | '"' :: t => (readBasic (t.length + 1) t).map fun (cs, t) => (String.ofList cs, t)
  | '\'' :: t => (readLiteral t).map fun (cs, t) => (String.ofList cs, t)
  | s =>
    let key := s.takeWhile isBareKeyChar
    if key.isEmpty then none else some (String.ofList key, s.dropWhile isBareKeyChar)

/-- Reads the parts of a key with dots: those before the last dot, and the last one. -/
def readParts : Nat → List Char → Option ((List String × String) × List Char)
  | 0, _ => none
  | fuel + 1, s => do
    let (key, s) ← readSimpleKey s
    match skipWhite s with
    | '.' :: t =>
      let ((path, last), t) ← readParts fuel (skipWhite t)
      some ((key :: path, last), t)
    | t => some (([], key), t)

/-- Reads a key with dots, which may not have too many parts. -/
def readKey (fuel : Nat) (s : List Char) : Option ((List String × String) × List Char) :=
  (readParts fuel s).filter fun ((path, _), _) => decide (path.length < maxDepth)

/-! ## Values -/

mutual

/-- Reads a value; `depth` is the number of levels that may still be opened. -/
def readValue : Nat → Nat → List Char → Option (Toml × List Char)
  | 0, _, _ => none
  | fuel + 1, depth, s =>
    match s with
    | '[' :: t =>
      match depth with
      | 0 => none
      | depth + 1 => (readItems fuel depth t).map fun (vs, t) => (.array vs, t)
    | '\x7b' :: t =>
      match depth with
      | 0 => none
      | depth + 1 =>
        (readPairs fuel depth [] t).map fun (children, t) => (.table (childrenToToml children), t)
    | '"' :: _ => (readQuoted s).map fun (cs, t) => (.string (String.ofList cs), t)
    | '\'' :: _ => (readQuoted s).map fun (cs, t) => (.string (String.ofList cs), t)
    | _ => readScalar s

/-- Reads the items of an array and its closing bracket. -/
def readItems : Nat → Nat → List Char → Option (List Toml × List Char)
  | 0, _, _ => none
  | fuel + 1, depth, s => do
    let s ← skipFiller false s
    match s with
    | ']' :: t => some ([], t)
    | s =>
      let (v, s) ← readValue fuel depth s
      match ← skipFiller false s with
      | ',' :: t => (readItems fuel depth t).map fun (vs, t) => (v :: vs, t)
      | ']' :: t => some ([v], t)
      | _ => none

/-- Reads the pairs of a table in braces and its closing brace. -/
def readPairs : Nat → Nat → Children → List Char → Option (Children × List Char)
  | 0, _, _, _ => none
  | fuel + 1, depth, children, s => do
    let s ← skipFiller false s
    match s with
    | '\x7d' :: t => some (children, t)
    | s =>
      let ((path, key), s) ← readKey fuel s
      match ← skipFiller false s with
      | '=' :: t =>
        let (v, t) ← readValue fuel depth (← skipFiller false t)
        let children ← setDotted path key v .named children
        match ← skipFiller false t with
        | ',' :: t => readPairs fuel depth children t
        | '\x7d' :: t => some (children, t)
        | _ => none
      | _ => none

end

/-! ## Lines -/

/-- Reads the end of a line with its comment, or the end of the text. -/
def readLineEnd : Bool → List Char → Option (List Char)
  | _, [] => some []
  | _, '\n' :: s => some s
  | _, '\r' :: '\n' :: s => some s
  | true, c :: s => if isPlain c then readLineEnd true s else none
  | false, c :: s =>
    if isWhite c then readLineEnd false s
    else if c = '#' then readLineEnd true s
    else none

/-- What has been read: the table at the root, and the path of the table that is open. -/
structure Draft where
  root : Children
  current : List String

/-- Reads a header up to its closing brackets. -/
def readHeader (fuel : Nat) (draft : Draft) (isItem : Bool) (s : List Char) :
    Option (Draft × List Char) := do
  let ((path, key), s) ← readKey fuel (skipWhite s)
  let change := if isItem then openItem key else openTable key
  let root ← descend .passed change path .named draft.root
  let s ← match skipWhite s, isItem with
    | ']' :: ']' :: t, true => some t
    | ']' :: t, false => some t
    | _, _ => none
  return (⟨root, path ++ [key]⟩, s)

/-- Reads a key with its value into the open table. -/
def readPair (fuel : Nat) (draft : Draft) (s : List Char) : Option (Draft × List Char) := do
  let ((path, key), s) ← readKey fuel s
  match skipWhite s with
  | '=' :: t =>
    let (v, t) ← readValue fuel maxDepth (skipWhite t)
    let root ← descend .passed (setDotted path key v) draft.current .named draft.root
    some (⟨root, draft.current⟩, t)
  | _ => none

/-- Reads the remaining lines. -/
def readLines : Nat → Draft → List Char → Option Draft
  | 0, _, _ => none
  | fuel + 1, draft, s =>
    match skipWhite s with
    | [] => some draft
    | '[' :: '[' :: t => do
      let (draft, t) ← readHeader fuel draft true t
      readLines fuel draft (← readLineEnd false t)
    | '[' :: t => do
      let (draft, t) ← readHeader fuel draft false t
      readLines fuel draft (← readLineEnd false t)
    | c :: t =>
      if c = '#' ∨ c = '\n' ∨ c = '\r' then do
        readLines fuel draft (← readLineEnd false (c :: t))
      else do
        let (draft, t) ← readPair fuel draft (c :: t)
        readLines fuel draft (← readLineEnd false t)

/-- The entries of the document that a text holds. A byte order mark at its front is ignored. -/
def parse? (text : String) : Option (Entries Toml) :=
  let s := match text.toList with
    | '\uFEFF' :: s => s
    | s => s
  (readLines (2 * s.length + 2) ⟨[], []⟩ s).map fun draft => childrenToToml draft.root

end TableClasses.Toml
