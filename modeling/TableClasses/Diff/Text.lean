import TableClasses.Diff.Compact

/-!
# Line differences of texts

The lines of a text keep their endings: a line feed, a carriage return, or both in this order. The
difference lists every line of both texts behind a sign: a blank for a line of both, `-` for one of
the old text, `+` for one of the new text. A last line without an ending gets a line feed.
-/

namespace TableClasses.Diff

/-- The lines of a text with their endings. -/
def linesWithEnds : List Char → List (List Char)
  | [] => []
  | '\n' :: rest => ['\n'] :: linesWithEnds rest
  | '\r' :: '\n' :: rest => ['\r', '\n'] :: linesWithEnds rest
  | '\r' :: rest => ['\r'] :: linesWithEnds rest
  | c :: rest =>
    match linesWithEnds rest with
    | [] => [[c]]
    | l :: ls => (c :: l) :: ls

theorem flatten_linesWithEnds (s : List Char) : (linesWithEnds s).flatten = s := by
  fun_induction linesWithEnds s <;> simp_all

/-- A line of a difference. -/
structure Entry where
  sign : Char
  line : List Char
  deriving DecidableEq, Repr

def Edit.entries : Edit (List Char) → List Entry
  | .keep ls => ls.map (⟨' ', ·⟩)
  | .delete ls => ls.map (⟨'-', ·⟩)
  | .insert ls => ls.map (⟨'+', ·⟩)

/-- The entries of the difference of two texts. -/
def entries (old new : List Char) : List Entry :=
  (gather [] [] (compact (compare (linesWithEnds old) (linesWithEnds new)))).flatMap Edit.entries

/-- Whether a line has an ending. -/
def isEnded (line : List Char) : Bool :=
  match line.getLast? with
  | some c => c == '\n' || c == '\r'
  | none => false

def Entry.chars (e : Entry) : List Char :=
  e.sign :: e.line ++ (if isEnded e.line then [] else ['\n'])

/-- The difference of two texts. -/
def render (old new : String) : String :=
  String.ofList ((entries old.toList new.toList).flatMap Entry.chars)

end TableClasses.Diff
