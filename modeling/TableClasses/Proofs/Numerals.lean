import Mathlib.Algebra.Order.Ring.Nat
import Mathlib.Data.List.TakeWhile
import Mathlib.Tactic.Ring
import Mathlib.Tactic.SplitIfs
import TableClasses.Decimal.Layout
import TableClasses.Decimal.Numeral
import TableClasses.Text.Split

/-!
# Numerals

Numbers are laid out in digits, and digits are read back. The shortest digits of a number lie in the
interval of what rounds to it, and there is no other whole number in the interval of a number below
the binary point. So the digits of a number that is not whole end after the point, and in generated
code every finite number is a sign and digits around a point. `Numeral` says what a sign and digits
stand for by their places, and exactly the numerals are read as whole numbers.
-/

namespace TableClasses.Decimal

/-! ## The shortest digits -/

theorem Interval.has_bounds {i : Interval} {n : Nat} (h : i.has n = true) :
    i.low ≤ n ∧ n ≤ i.high := by
  unfold has at h
  split at h
  · simpa using h
  · simp only [Bool.and_eq_true, decide_eq_true_eq] at h
    exact ⟨Nat.le_of_lt h.1, Nat.le_of_lt h.2⟩

/-- A hit on a grid, with the number of units that it stands for. -/
theorem Interval.hit?_spec {tie : Tie} {i : Interval} {n : Nat} {d : Digits}
    (h : i.hit? tie n = some d) :
    i.has (d.digits * 10 ^ (i.width - n)) = true ∧
      d.exponent = (i.width - n : Nat) - (i.places : Int) := by
  unfold hit? at h
  dsimp only at h
  split at h
  · next hbelow habove =>
    split_ifs at h
    · cases h; exact ⟨habove, rfl⟩
    · cases h; exact ⟨hbelow, rfl⟩
  · next hbelow _ => cases h; exact ⟨hbelow, rfl⟩
  · next _ habove => cases h; exact ⟨habove, rfl⟩
  · cases h

theorem Digits.stripZeros_spec (fuel : Nat) (d : Digits) :
    ∃ k : Nat, (d.stripZeros fuel).exponent = d.exponent + k ∧
      d.digits = (d.stripZeros fuel).digits * 10 ^ k := by
  induction fuel generalizing d with
  | zero => exact ⟨0, by simp [stripZeros], by simp [stripZeros]⟩
  | succ fuel ih =>
    rw [stripZeros]
    split
    · next hzero =>
      obtain ⟨k, hexponent, hdigits⟩ := ih ⟨d.digits / 10, d.exponent + 1⟩
      refine ⟨k + 1, ?_, ?_⟩
      · rw [hexponent]
        push_cast
        omega
      · have htenth : d.digits = d.digits / 10 * 10 := by
          simp only [Bool.and_eq_true, beq_iff_eq] at hzero
          omega
        rw [pow_succ, ← Nat.mul_assoc, ← hdigits]
        exact htenth
    · exact ⟨0, by simp⟩

/-- The shortest digits stand for a number of units in the interval that rounds to the value. -/
theorem shortest_spec (tie : Tie) {m : Nat} (e : Int) (hm : m ≠ 0) :
    ∃ k : Nat, (Interval.ofBinary m e).low ≤ (shortest tie m e).digits * 10 ^ k ∧
      (shortest tie m e).digits * 10 ^ k ≤ (Interval.ofBinary m e).high ∧
      (shortest tie m e).exponent = k - ((Interval.ofBinary m e).places : Int) := by
  unfold shortest
  rw [if_neg hm]
  dsimp only
  split
  · next d hd =>
    obtain ⟨n, -, hhit⟩ := List.exists_of_findSome?_eq_some hd
    obtain ⟨hhas, hexponent⟩ := Interval.hit?_spec hhit
    obtain ⟨k, hstripped, hdigits⟩ := Digits.stripZeros_spec 20 d
    obtain ⟨hlow, hhigh⟩ := Interval.has_bounds hhas
    rw [hdigits, Nat.mul_assoc, ← pow_add] at hlow hhigh
    refine ⟨_, hlow, hhigh, ?_⟩
    rw [hstripped, hexponent]
    push_cast
    omega
  · refine ⟨0, ?_, ?_, by simp⟩
    · simp only [Interval.ofBinary, pow_zero, Nat.mul_one]
      exact Nat.mul_le_mul_right _ (Nat.sub_le _ _)
    · simp only [Interval.ofBinary, pow_zero, Nat.mul_one]
      exact Nat.mul_le_mul_right _ (Nat.le_add_right _ _)

theorem exponent_neg_of_whole?_eq_none {negative : Bool} {m : Nat} {e : Int}
    (h : (Binary64.finite negative m e).whole? = none) : e < 0 ∧ ¬ 2 ^ (-e).toNat ∣ m := by
  unfold Binary64.whole? Binary64.ratio at h
  dsimp only at h
  split at h
  · cases h
  · next hmod =>
    rw [Nat.pow_eq, Nat.pow_eq] at hmod
    have he : e < 0 := by
      by_contra hnonneg
      refine hmod ?_
      rw [Int.toNat_of_nonpos (by omega : -e ≤ 0), pow_zero, Nat.mod_one]
    refine ⟨he, fun hdvd => hmod ?_⟩
    rw [Int.toNat_of_nonpos he.le, pow_zero, Nat.mul_one]
    exact Nat.mod_eq_zero_of_dvd hdvd

/-- The only whole number in the interval of a value below the binary point is the value. -/
theorem Interval.whole_of_ofBinary {m n : Nat} {e : Int} (he : e < 0)
    (hlow : (ofBinary m e).low ≤ n * 10 ^ (ofBinary m e).places)
    (hhigh : n * 10 ^ (ofBinary m e).places ≤ (ofBinary m e).high) : n * 2 ^ (-e).toNat = m := by
  obtain ⟨b, hb⟩ : ∃ b : Nat, (-e).toNat = b + 1 := ⟨(-e).toNat - 1, by omega⟩
  have hplaces : (-(e - 2)).toNat = b + 3 := by omega
  have hunit : (e - 2).toNat = 0 := by omega
  have hten : n * 10 ^ (b + 3) = 8 * (n * 2 ^ b) * 5 ^ (b + 3) := by
    rw [show (10 : Nat) = 2 * 5 from rfl, Nat.mul_pow, pow_add 2 b 3, show (2 : Nat) ^ 3 = 8 from rfl]
    simp only [Nat.mul_assoc, Nat.mul_left_comm, Nat.mul_comm]
  have hfive : 0 < 5 ^ (b + 3) := Nat.pow_pos (by decide)
  simp only [ofBinary, hplaces, hunit, hten, Nat.pow_eq, pow_zero, Nat.one_mul] at hlow hhigh
  have hhigh := Nat.le_of_mul_le_mul_right hhigh hfive
  have hlow := Nat.le_of_mul_le_mul_right hlow hfive
  -- in units of the interval: a multiple of eight at most two away from four times the mantissa
  rw [hb, pow_succ, ← Nat.mul_assoc]
  split at hlow <;> omega

/-- So the digits of a value that is not whole end after the point. -/
theorem exponent_shortest_neg (tie : Tie) {negative : Bool} {m : Nat} {e : Int}
    (h : (Binary64.finite negative m e).whole? = none) : (shortest tie m e).exponent < 0 := by
  obtain ⟨he, hndvd⟩ := exponent_neg_of_whole?_eq_none h
  have hm : m ≠ 0 := fun hm => hndvd (hm ▸ Nat.dvd_zero _)
  obtain ⟨k, hlow, hhigh, hexponent⟩ := shortest_spec tie e hm
  generalize (shortest tie m e).digits = digits at hlow hhigh
  by_contra hnonneg
  obtain ⟨j, rfl⟩ : ∃ j, k = j + (Interval.ofBinary m e).places :=
    ⟨k - (Interval.ofBinary m e).places, by omega⟩
  rw [pow_add, ← Nat.mul_assoc] at hlow hhigh
  exact hndvd (Dvd.intro_left _ (Interval.whole_of_ofBinary he hlow hhigh))

/-! ## Digits and a point -/

theorem isDigit_toDigits (n : Nat) : ∀ c ∈ Nat.toDigits 10 n, c.isDigit = true :=
  fun _ hc => Nat.isDigit_of_mem_toDigits (by decide) (by decide) hc

theorem natOf?_toDigits (n : Nat) : natOf? (Nat.toDigits 10 n) = some n := by
  unfold natOf?
  rw [if_pos ⟨Nat.toDigits_ne_nil, List.all_eq_true.2 (isDigit_toDigits n)⟩]
  exact congrArg some (Nat.ofDigitChars_toDigits (by decide) (by decide))

theorem isDigit_zeros (n : Nat) : ∀ c ∈ zeros n, c.isDigit = true := by
  intro c hc
  rw [List.eq_of_mem_replicate hc]
  rfl

theorem Digits.isDigit_positional (d : Digits) :
    (∀ c ∈ d.positional.1, c.isDigit = true) ∧ ∀ c ∈ d.positional.2, c.isDigit = true := by
  have hpadded : ∀ n, ∀ c ∈ zeros n ++ Nat.toDigits 10 d.digits, c.isDigit = true := fun n =>
    List.forall_mem_append.2 ⟨isDigit_zeros n, isDigit_toDigits _⟩
  simp only [positional]
  split
  · exact ⟨List.forall_mem_append.2 ⟨isDigit_toDigits _, isDigit_zeros _⟩, by simp⟩
  · exact ⟨fun c hc => hpadded _ c (List.mem_of_mem_take hc),
      fun c hc => hpadded _ c (List.mem_of_mem_drop hc)⟩

theorem Digits.positional_ne_nil {d : Digits} (h : d.exponent < 0) :
    d.positional.1 ≠ [] ∧ d.positional.2 ≠ [] := by
  simp only [positional, if_neg (Int.not_le.2 h)]
  generalize hpadded : zeros _ ++ Nat.toDigits 10 d.digits = padded
  have hlength : (-d.exponent).toNat < padded.length := by
    rw [← hpadded, zeros, List.length_append, List.length_replicate]
    omega
  rw [← List.length_pos_iff, ← List.length_pos_iff, List.length_take, List.length_drop]
  omega

/-- A float in code is a sign and digits around a point. -/
theorem codeChars_finite (negative : Bool) (m : Nat) (e : Int) :
    ∃ whole fraction, codeChars (.finite negative m e)
        = signText negative ++ (whole ++ '.' :: fraction) ∧ whole ≠ [] ∧
      (∀ c ∈ whole, c.isDigit = true) ∧ ∀ c ∈ fraction, c.isDigit = true := by
  unfold codeChars
  split
  · next n _ =>
    exact ⟨Nat.toDigits 10 n, ['0'], by simp [Binary64.isNegative], Nat.toDigits_ne_nil,
      isDigit_toDigits n, by simp⟩
  · next h =>
    obtain ⟨hwhole, hfraction⟩ := Digits.positional_ne_nil (exponent_shortest_neg .up h)
    refine ⟨_, _, ?_, hwhole, (shortest .up m e).isDigit_positional⟩
    simp [plainChars, hfraction]

theorem natOf?_point (whole fraction : List Char) : natOf? (whole ++ '.' :: fraction) = none := by
  unfold natOf?
  rw [if_neg]
  rintro ⟨-, hall⟩
  have hpoint := List.all_eq_true.1 hall '.' (by simp)
  cases hpoint

theorem decimalOf?_point {whole fraction : List Char} (hwhole : whole ≠ [])
    (hdigits : ∀ c ∈ whole, c.isDigit = true) (hdigits' : ∀ c ∈ fraction, c.isDigit = true) :
    decimalOf? false (whole ++ '.' :: fraction)
      = some (ofDigits false (whole ++ fraction) (0 - fraction.length)) := by
  have hpoint : ∀ c ∈ ('.' :: fraction).head?, c.isDigit = false := by
    rintro _ ⟨⟩
    decide
  obtain ⟨htake, hdrop⟩ := Text.cut_run hdigits hpoint
  have htake' : fraction.takeWhile Char.isDigit = fraction :=
    List.takeWhile_eq_self_iff.2 hdigits'
  have hdrop' : fraction.dropWhile Char.isDigit = [] := List.dropWhile_eq_nil_iff.2 hdigits'
  simp only [decimalOf?, htake, hdrop, htake', hdrop']
  simp [hwhole]

/-! ## Numerals by their places -/

/-- The number that digits stand for, each in its place. -/
def placeValue : List Char → Nat
  | [] => 0
  | c :: rest => digitValue c * 10 ^ rest.length + placeValue rest

theorem digitsValue_eq (acc : Nat) (ds : List Char) :
    digitsValue acc ds = acc * 10 ^ ds.length + placeValue ds := by
  induction ds generalizing acc with
  | nil => simp [digitsValue, placeValue]
  | cons c ds ih =>
    have hstep : digitsValue acc (c :: ds) = digitsValue (10 * acc + digitValue c) ds := rfl
    rw [hstep, ih, placeValue, List.length_cons, pow_succ]
    ring

/-- Digits alone, at least one. -/
structure AreDigits (ds : List Char) : Prop where
  nonempty : ds ≠ []
  digits : ∀ d ∈ ds, d.isDigit = true

theorem natOf?_eq_some_iff {ds : List Char} {n : Nat} :
    natOf? ds = some n ↔ AreDigits ds ∧ n = placeValue ds := by
  have hvalue : digitsValue 0 ds = placeValue ds := by
    rw [digitsValue_eq, Nat.zero_mul, Nat.zero_add]
  unfold natOf?
  rw [Option.ite_none_right_eq_some, Option.some.injEq, hvalue, List.all_eq_true, eq_comm]
  exact and_congr_left' ⟨fun h => ⟨h.1, h.2⟩, fun h => ⟨h.nonempty, h.digits⟩⟩

/-- A decimal numeral, perhaps with a sign, and the whole number that it stands for. -/
inductive Numeral : List Char → Int → Prop
  | unsigned {ds : List Char} : AreDigits ds → Numeral ds (placeValue ds)
  | plus {ds : List Char} : AreDigits ds → Numeral ('+' :: ds) (placeValue ds)
  | minus {ds : List Char} : AreDigits ds → Numeral ('-' :: ds) (-(placeValue ds : Int))

theorem AreDigits.splitSign_eq {ds : List Char} (h : AreDigits ds) :
    splitSign ds = (false, ds) := by
  unfold splitSign
  split
  · next rest =>
    have hminus := h.digits '-' List.mem_cons_self
    cases hminus
  · next rest =>
    have hplus := h.digits '+' List.mem_cons_self
    cases hplus
  · rfl

theorem intOf?_eq (s : List Char) :
    intOf? s = (natOf? (splitSign s).2).map
      fun n : Nat => if (splitSign s).1 then -(n : Int) else (n : Int) := by
  unfold intOf?
  obtain ⟨negative, rest⟩ := splitSign s
  cases hn : natOf? rest <;> simp [hn]

/-- Exactly the numerals are read as whole numbers, each as its own. -/
theorem intOf?_eq_some_iff {s : List Char} {i : Int} : intOf? s = some i ↔ Numeral s i := by
  rw [intOf?_eq, Option.map_eq_some_iff]
  constructor
  · rintro ⟨n, hn, rfl⟩
    obtain ⟨hdigits, rfl⟩ := natOf?_eq_some_iff.1 hn
    clear hn
    revert hdigits
    fun_cases splitSign s with
    | case1 rest => exact .minus
    | case2 rest => exact .plus
    | case3 => exact .unsigned
  · intro h
    cases h with
    | unsigned hdigits =>
      rw [hdigits.splitSign_eq]
      exact ⟨_, natOf?_eq_some_iff.2 ⟨hdigits, rfl⟩, rfl⟩
    | plus hdigits => exact ⟨_, natOf?_eq_some_iff.2 ⟨hdigits, rfl⟩, rfl⟩
    | minus hdigits => exact ⟨_, natOf?_eq_some_iff.2 ⟨hdigits, rfl⟩, rfl⟩

theorem Numeral.unique {s : List Char} {i j : Int} (hi : Numeral s i) (hj : Numeral s j) : i = j :=
  Option.some.inj ((intOf?_eq_some_iff.2 hi).symm.trans (intOf?_eq_some_iff.2 hj))

theorem int64Of?_eq_some_iff {text : String} {i : Int} :
    int64Of? text = some i ↔ Numeral text.toList i ∧ inInt64 i = true := by
  rw [int64Of?, Option.filter_eq_some_iff, intOf?_eq_some_iff]

theorem int64Of?_eq_none_iff {text : String} :
    int64Of? text = none ↔ ∀ i, Numeral text.toList i → inInt64 i = false := by
  simp only [Option.eq_none_iff_forall_ne_some, ne_eq, int64Of?_eq_some_iff, not_and,
    Bool.not_eq_true]

end TableClasses.Decimal
