import TableClasses.Text.Alphanumeric
import TableClasses.Text.Letter

/-!
# Words of an identifier

An identifier is cut into words at every character that is neither a letter nor a number, and
inside such a piece by the case of its letters: after a small letter that a capital follows, and
before a capital that ends a run of capitals because a small letter follows it. Characters without
case, such as digits, count as the letter before them.
-/

namespace TableClasses.Naming

open TableClasses.Text

/-- The case of the last cased letter of the word being read. -/
inductive Mode where
  | boundary
  | lower
  | upper
  deriving DecidableEq, Repr

/-- The mode once `c` has been read. -/
def Mode.after (m : Mode) (c : Char) : Mode :=
  if isLowercase c then .lower else if isUppercase c then .upper else m

/-- Cuts a piece without separators into words. `word` is what has been read of the current word,
last character first. -/
def cutCase (word : List Char) (mode : Mode) : List Char → List (List Char)
  | [] => []
  | [c] => [(c :: word).reverse]
  | c :: next :: rest =>
    if mode.after c = .lower && isUppercase next then
      (c :: word).reverse :: cutCase [] .boundary (next :: rest)
    else if mode = .upper && isUppercase c && isLowercase next then
      word.reverse :: cutCase [c] .boundary (next :: rest)
    else
      cutCase (c :: word) (mode.after c) (next :: rest)

/-- The maximal runs of letters and numbers. -/
def runs : List Char → List (List Char)
  | [] => [[]]
  | c :: rest =>
    match runs rest with
    | [] => [[]]
    | r :: rs => if isAlphanumeric c then (c :: r) :: rs else [] :: r :: rs

/-- The words of an identifier, in order. -/
def words (s : List Char) : List (List Char) := (runs s).flatMap (cutCase [] .boundary)

end TableClasses.Naming
