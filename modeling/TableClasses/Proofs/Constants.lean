import TableClasses.Proofs.Numerals
import TableClasses.Proofs.Quotations

/-!
# Constants in generated code

`constant?` reads a constant expression as the language does. Digits alone are a whole number while
it has 63 bits and a float from there on, and a minus sign before them changes the number but not
its type. Literals are read as what they are, but for the least whole number: it is read as a float,
because its digits without the sign are too large.
-/

namespace TableClasses.Code

open TableClasses.Decimal

/-! ## Reading constants -/

/-- The value of a constant expression. -/
inductive Constant where
  | null
  | bool (value : Bool)
  | int (value : Int)
  | float (value : Binary64)
  | string (value : List Char)
  deriving DecidableEq, Repr

namespace Constant

/-- A number with a minus sign before it. -/
def neg : Constant → Constant
  | int i => int (-i)
  | float x => float x.neg
  | k => k

/-- A number without a sign. Digits after a leading zero are octal and not read here. -/
def numeral? (s : List Char) : Option Constant :=
  match natOf? s with
  | some n =>
    if s.head? = some '0' ∧ s ≠ ['0'] then none
    else if n < bound 63 then some (int n)
    else some (float (ofDigits false s 0))
  | none => (decimalOf? false s).map float

end Constant

/-- The constant that a text is as a whole. -/
def constant? (s : List Char) : Option Constant :=
  match s with
  | '-' :: rest => (Constant.numeral? rest).map Constant.neg
  | _ =>
    match scanQuoted s with
    | some (text, rest) => if rest = [] then some (.string text) else none
    | none =>
      if s = "null".toList then some .null
      else if s = "true".toList then some (.bool true)
      else if s = "false".toList then some (.bool false)
      else Constant.numeral? s

/-! ## Literals are read as they are -/

theorem constant?_minus (s : List Char) :
    constant? ('-' :: s) = (Constant.numeral? s).map Constant.neg := rfl

theorem scanQuoted_of_ne {c : Char} (h : c ≠ '\'') (rest : List Char) :
    scanQuoted (c :: rest) = none := by
  unfold scanQuoted
  split
  · next heq => exact absurd (List.cons.inj heq).1 h
  · rfl

theorem constant?_of_digit {c : Char} (h : c.isDigit = true) (rest : List Char) :
    constant? (c :: rest) = Constant.numeral? (c :: rest) := by
  have hne : ∀ d : Char, d.isDigit = false → c ≠ d := by
    rintro d hd rfl
    rw [h] at hd
    cases hd
  unfold constant?
  split
  · next heq => exact absurd (List.cons.inj heq).1 (hne '-' (by decide))
  · have hword : ∀ word : List Char, word.head?.any Char.isDigit = false → c :: rest ≠ word := by
      rintro _ hd rfl
      simp [h] at hd
    rw [scanQuoted_of_ne (hne '\'' (by decide))]
    dsimp only
    rw [if_neg (hword _ (by decide)), if_neg (hword _ (by decide)), if_neg (hword _ (by decide))]

theorem head?_toDigits {n : Nat} (h : (Nat.toDigits 10 n).head? = some '0') : n = 0 := by
  induction n using Nat.strongRecOn with
  | ind n ih =>
    rw [Nat.toDigits_eq_if (by decide)] at h
    split at h
    · next hn =>
      have hdigits : ∀ k < 10, [k.digitChar].head? = some '0' → k = 0 := by decide
      exact hdigits n hn h
    · rw [List.head?_append_of_ne_nil _ Nat.toDigits_ne_nil] at h
      have := ih (n / 10) (by omega) h
      omega

theorem numeral?_toDigits (n : Nat) :
    Constant.numeral? (Nat.toDigits 10 n)
      = some (if n < bound 63 then .int n else .float (ofDigits false (Nat.toDigits 10 n) 0)) := by
  unfold Constant.numeral?
  rw [natOf?_toDigits]
  dsimp only
  rw [if_neg]
  · split <;> rfl
  · rintro ⟨hhead, hzero⟩
    obtain rfl := head?_toDigits hhead
    exact hzero rfl

theorem constant?_toDigits (n : Nat) :
    constant? (Nat.toDigits 10 n) = Constant.numeral? (Nat.toDigits 10 n) := by
  have hdigits := isDigit_toDigits n
  cases hn : Nat.toDigits 10 n with
  | nil => exact absurd hn Nat.toDigits_ne_nil
  | cons c rest => exact constant?_of_digit (hdigits c (by rw [hn]; exact List.mem_cons_self)) rest

/-- A whole number is read as itself if it has 63 bits without its sign, and else as a float. -/
theorem constant?_int (i : Int) :
    ∃ x, constant? (Literal.int i).text.toList
      = some (if i.natAbs < bound 63 then .int i else .float x) := by
  simp only [Literal.text, Int.toString_eq_repr, Int.repr_eq_if]
  split
  · next hi =>
    rw [Nat.toList_repr, constant?_toDigits, numeral?_toDigits, show i.toNat = i.natAbs by omega]
    refine ⟨ofDigits false (Nat.toDigits 10 i.natAbs) 0, ?_⟩
    rw [show ((i.natAbs : Nat) : Int) = i by omega]
  · next hi =>
    rw [String.toList_append, Nat.toList_repr, show (-i).toNat = i.natAbs by omega]
    refine ⟨(ofDigits false (Nat.toDigits 10 i.natAbs) 0).neg, ?_⟩
    rw [show "-".toList = ['-'] by decide, List.singleton_append, constant?_minus,
      numeral?_toDigits, Option.map_some]
    split
    · exact congrArg some (congrArg Constant.int (by omega))
    · rfl

/-- A float is read as a float. -/
theorem constant?_float (negative : Bool) (m : Nat) (e : Int) :
    ∃ x, constant? (Literal.float (.finite negative m e)).text.toList = some (.float x) := by
  obtain ⟨whole, fraction, hchars, hwhole, hdigits, hdigits'⟩ := codeChars_finite negative m e
  have hnumeral : ∃ x, Constant.numeral? (whole ++ '.' :: fraction) = some (.float x) := by
    unfold Constant.numeral?
    rw [natOf?_point, decimalOf?_point hwhole hdigits hdigits']
    exact ⟨_, rfl⟩
  obtain ⟨x, hx⟩ := hnumeral
  rw [Literal.text, Binary64.codeText, String.toList_ofList, hchars]
  cases negative with
  | false =>
    obtain ⟨c, rest, rfl⟩ := List.exists_cons_of_ne_nil hwhole
    exact ⟨x, (constant?_of_digit (hdigits c List.mem_cons_self) _).trans hx⟩
  | true =>
    have hminus := constant?_minus (whole ++ '.' :: fraction)
    rw [hx] at hminus
    exact ⟨x.neg, hminus⟩

theorem constant?_string (s : String) :
    constant? (Literal.string s).text.toList = some (.string s.toList) := by
  have hscan := scanQuoted_quote s.toList []
  rw [List.append_nil] at hscan
  rw [Literal.text, quoteString, String.toList_ofList]
  unfold constant?
  split
  · next heq => cases (List.cons.inj heq).1
  · rw [hscan]
    rfl

theorem constant?_bool (b : Bool) : constant? (Literal.bool b).text.toList = some (.bool b) := by
  cases b <;> decide

theorem constant?_null : constant? Literal.null.text.toList = some .null := by decide

end TableClasses.Code
