import TableClasses.Text.Letter
import TableClasses.Text.CaseMap
import TableClasses.Text.Blank

/-!
# Case of a text

`lowerText` is the small form of running text. Every character maps by itself, except that a
capital sigma becomes the final form `ς` where it ends a word: a cased letter stands before it and
none after it, characters that case mapping ignores not counted. `asciiLower` maps the letters A
to Z and nothing else.
-/

namespace TableClasses.Text

/-- Whether the first character that is not ignored is cased. -/
def meetsCased (s : List Char) : Bool :=
  match s.dropWhile isCaseIgnorable with
  | [] => false
  | c :: _ => isCased c

/-- The small form of `s`, where `seen` is what precedes it, nearest character first. -/
def lowerAfter (seen : List Char) : List Char → List Char
  | [] => []
  | c :: rest =>
    (if c = 'Σ' then [if meetsCased seen && !meetsCased rest then 'ς' else 'σ'] else lowerChar c)
      ++ lowerAfter (c :: seen) rest

/-- The small form of a text. -/
def lowerText (s : String) : String := onChars (lowerAfter []) s

/-- The text with A to Z in their small form. -/
def asciiLower (s : String) : String := onChars (·.map Char.toLower) s

end TableClasses.Text
