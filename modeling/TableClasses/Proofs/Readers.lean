import Mathlib.Data.List.TakeWhile
import Mathlib.Data.Option.Basic
import TableClasses.Json.Reader

/-!
# What a reader takes

A reader depends on nothing but the part it takes off the front of a text. `Takes read p a rest`
says that it gives `a` for the part `p` however much of `rest` is cut off behind; `Local` readers
take such parts. Readers with fuel take `Parts`: the length of a part is fuel enough to read it.
Both are closed under putting readers in a row. The readers of numbers and strings are local.
-/

namespace TableClasses.Json

open TableClasses.Text TableClasses.Decimal

variable {α β : Type}

abbrev Reader (α : Type) := List Char → Option (α × List Char)

/-- The reader gives `a` for `p`, whichever beginning of `rest` follows. -/
def Takes (read : Reader α) (p : List Char) (a : α) (rest : List Char) : Prop :=
  ∀ t, t <+: rest → read (p ++ t) = some (a, t)

/-- The reader takes parts of this kind and depends on nothing else. -/
def Local (P : List Char → Prop) (read : Reader α) : Prop :=
  ∀ ⦃s a rest⦄, read s = some (a, rest) → ∃ p, s = p ++ rest ∧ P p ∧ Takes read p a rest

/-- A character that trimming leaves. -/
def Plain (c : Char) : Prop := isBlank c = false

instance (c : Char) : Decidable (Plain c) := inferInstanceAs (Decidable (_ = _))

/-- No character of the part is trimmed. -/
def Bare (p : List Char) : Prop := ∀ c ∈ p, Plain c

/-- The part ends in a character that trimming leaves. -/
def Firm (p : List Char) : Prop := ∃ q c, p = q ++ [c] ∧ Plain c

theorem Firm.append {p : List Char} (h : Firm p) (q : List Char) : Firm (q ++ p) := by
  obtain ⟨r, c, rfl, hc⟩ := h
  exact ⟨q ++ r, c, (List.append_assoc ..).symm, hc⟩

theorem Firm.length_pos {p : List Char} (h : Firm p) : 0 < p.length := by
  obtain ⟨q, c, rfl, -⟩ := h
  simp

theorem Bare.firm {p : List Char} (hp : Bare p) (hne : p ≠ []) : Firm p :=
  ⟨p.dropLast, p.getLast hne, (List.dropLast_concat_getLast hne).symm, hp _ (List.getLast_mem hne)⟩

/-- What is read with this fuel is read from a firm part, with fuel for each of its characters. -/
def Parts (read : Nat → Reader α) (fuel : Nat) : Prop :=
  ∀ ⦃s a rest⦄, read fuel s = some (a, rest) →
    ∃ p, s = p ++ rest ∧ Firm p ∧ ∀ n, p.length ≤ n → Takes (read n) p a rest

/-! ## Readers in a row -/

namespace Reader

/-- Reads the one and then the other. -/
def next (read : Reader α) (f : α → Reader β) : Reader β := fun s =>
  (read s).bind fun x => f x.1 x.2

/-- Takes nothing. -/
def give (a : Option α) : Reader α := fun s => a.bind fun a => some (a, s)

def map (f : α → β) (read : Reader α) : Reader β := fun s =>
  (read s).map fun x => (f x.1, x.2)

end Reader

theorem Takes.next {read : Reader α} {f : α → Reader β} {p q rest : List Char} {a : α} {b : β}
    (hread : Takes read p a (q ++ rest)) (hf : Takes (f a) q b rest) :
    Takes (read.next f) (p ++ q) b rest := by
  intro t ht
  rw [List.append_assoc, Reader.next, hread _ ((List.prefix_append_right_inj q).2 ht)]
  exact hf t ht

theorem Local.give (a : Option α) : Local Bare (Reader.give a) := by
  intro s b rest h
  obtain ⟨a, rfl, he⟩ := Option.bind_eq_some_iff.1 h
  obtain ⟨rfl, rfl⟩ := Prod.mk.inj (Option.some.inj he)
  exact ⟨[], rfl, by simp [Bare], fun t _ => rfl⟩

theorem Local.next {read : Reader α} {f : α → Reader β} (hread : Local Bare read)
    (hf : ∀ a, Local Bare (f a)) : Local Bare (read.next f) := by
  intro s b rest h
  obtain ⟨⟨a, s'⟩, hs, hb⟩ := Option.bind_eq_some_iff.1 h
  obtain ⟨p, rfl, hp, hfirst⟩ := hread hs
  obtain ⟨q, rfl, hq, hsecond⟩ := hf a hb
  exact ⟨p ++ q, (List.append_assoc ..).symm, List.forall_mem_append.2 ⟨hp, hq⟩,
    hfirst.next hsecond⟩

theorem Local.parts {read : Reader α} (h : Local Firm read) (fuel : Nat) :
    Parts (fun _ => read) fuel := by
  intro s a rest hs
  obtain ⟨p, rfl, hp, htakes⟩ := h hs
  exact ⟨p, rfl, hp, fun _ _ => htakes⟩

section
variable {fuel : Nat} {first : Nat → Reader α} {second : α → Nat → Reader β}

/-- Since neither part is empty, one piece of fuel is left over. -/
theorem Parts.spare (hfirst : Parts first fuel) (hsecond : ∀ a, Parts (second a) fuel)
    {s rest : List Char} {b : β}
    (h : ((first fuel).next fun a => second a fuel) s = some (b, rest)) :
    ∃ p, s = p ++ rest ∧ Firm p ∧
      ∀ n, p.length ≤ n + 1 → Takes ((first n).next fun a => second a n) p b rest := by
  obtain ⟨⟨a, s'⟩, hs, hb⟩ := Option.bind_eq_some_iff.1 h
  obtain ⟨p, rfl, hp, hpart⟩ := hfirst hs
  obtain ⟨q, rfl, hq, hpart'⟩ := hsecond a hb
  have hppos := hp.length_pos
  have hqpos := hq.length_pos
  refine ⟨p ++ q, (List.append_assoc ..).symm, hq.append p, fun n hn => ?_⟩
  rw [List.length_append] at hn
  exact (hpart n (by omega)).next (hpart' n (by omega))

theorem Parts.next (hfirst : Parts first fuel) (hsecond : ∀ a, Parts (second a) fuel) :
    Parts (fun n => (first n).next fun a => second a n) fuel := by
  intro s b rest h
  obtain ⟨p, hs, hp, hpart⟩ := hfirst.spare hsecond h
  exact ⟨p, hs, hp, fun n hn => hpart n (by omega)⟩

theorem Parts.succ {read : Nat → Reader β}
    (hread : ∀ n, read (n + 1) = (first n).next fun a => second a n)
    (hfirst : Parts first fuel) (hsecond : ∀ a, Parts (second a) fuel) : Parts read (fuel + 1) := by
  intro s b rest h
  rw [hread] at h
  obtain ⟨p, hs, hp, hpart⟩ := hfirst.spare hsecond h
  refine ⟨p, hs, hp, fun n hn => ?_⟩
  obtain ⟨n, rfl⟩ : ∃ k, n = k + 1 := ⟨n - 1, by have := hp.length_pos; omega⟩
  rw [hread]
  exact hpart n hn

theorem Parts.map (hfirst : Parts first fuel) (f : α → β) :
    Parts (fun n => (first n).map f) fuel := by
  intro s b rest h
  obtain ⟨⟨a, u⟩, ha, he⟩ := Option.map_eq_some_iff.1 h
  obtain ⟨rfl, rfl⟩ := Prod.mk.inj he
  obtain ⟨p, hs, hp, hpart⟩ := hfirst ha
  refine ⟨p, hs, hp, fun n hn t ht => ?_⟩
  show (first n (p ++ t)).map (fun x => (f x.1, x.2)) = _
  rw [hpart n hn t ht]
  rfl

end

/-! ## Numbers -/

namespace Reader

/-- All digits at the front. -/
def digits : Reader (List Char) := fun s =>
  some (s.takeWhile Char.isDigit, s.dropWhile Char.isDigit)

/-- A character of this kind, if there is one, and what comes after it. -/
def after (p : Char → Bool) (read : Reader α) : Reader (Option α) := fun s =>
  match s with
  | c :: t => if p c then (read t).map fun x => (some x.1, x.2) else some (none, c :: t)
  | [] => some (none, [])

def minus : Reader Bool :=
  (after (· == '-') (give (some ()))).next fun found => give (some found.isSome)

/-- A sign; plus is read as no sign is. -/
def sign : Reader Bool :=
  (after (· == '-') (give (some ()))).next fun found =>
    if found.isSome then give (some true)
    else (after (· == '+') (give (some ()))).next fun _ => give (some false)

/-- What may follow the whole digits of a number. -/
def fraction : Reader (Option (List Char)) :=
  after (· == '.') (digits.next fun ds => give (if ds.isEmpty then none else some ds))

def exponent : Reader (Option Int) := after (fun c => c == 'e' || c == 'E') readExponent

end Reader

/-- Nothing is taken where the text does not begin with such a character. -/
theorem after_of_not_head {p : Char → Bool} {s : List Char} (hs : ∀ c ∈ s.head?, p c = false)
    (read : Reader α) : Reader.after p read s = some (none, s) := by
  cases s with
  | nil => rfl
  | cons c t =>
    unfold Reader.after
    simp only [hs c rfl, Bool.false_eq_true, if_false]

theorem not_beq_head {c : Char} {s : List Char} (h : ∀ t, s = c :: t → False) :
    ∀ d ∈ s.head?, (d == c) = false := by
  cases s with
  | nil => simp
  | cons d t =>
    intro d' hd
    obtain rfl : d = d' := Option.some.inj hd
    exact beq_eq_false_iff_ne.2 fun he => h t (he ▸ rfl)

theorem minus_eq (s : List Char) :
    Reader.minus s =
      some (match s with
        | '-' :: t => (true, t)
        | t => (false, t)) := by
  unfold Reader.minus Reader.next
  split
  · rfl
  · next hne =>
    rw [after_of_not_head (not_beq_head hne)]
    rfl

theorem sign_eq (s : List Char) : Reader.sign s = some (splitSign s) := by
  unfold Reader.sign Reader.next splitSign
  split
  · rfl
  · rfl
  · next hminus hplus =>
    rw [after_of_not_head (not_beq_head hminus)]
    simp only [Option.bind_some, Option.isSome_none, Bool.false_eq_true, if_false]
    rw [after_of_not_head (not_beq_head hplus)]
    rfl

theorem fraction_point (t : List Char) :
    Reader.fraction ('.' :: t) =
      if (t.takeWhile Char.isDigit).isEmpty then none
      else some (some (t.takeWhile Char.isDigit), t.dropWhile Char.isDigit) := by
  unfold Reader.fraction Reader.after Reader.next Reader.digits Reader.give
  simp only [Option.bind_some, beq_self_eq_true, if_true]
  generalize t.takeWhile Char.isDigit = ds
  cases ds <;> rfl

theorem fraction_absent {s : List Char} (h : ∀ t, s = '.' :: t → False) :
    Reader.fraction s = some (none, s) :=
  after_of_not_head (not_beq_head h) _

theorem exponent_bind (s : List Char) (f : Option Int × List Char → Option β) :
    (Reader.exponent s).bind f =
      match s with
      | c :: t =>
        if c == 'e' || c == 'E' then ((readExponent t).map fun x => (some x.1, x.2)).bind f
        else f (none, c :: t)
      | [] => f (none, []) := by
  cases s with
  | nil => rfl
  | cons c t =>
    unfold Reader.exponent Reader.after
    simp only []
    split <;> rfl

theorem readNumber_eq : readNumber =
    Reader.minus.next fun negative =>
    Reader.digits.next fun whole =>
    (Reader.give (guard (!whole.isEmpty && (whole.length == 1 || whole.head? != some '0')))).next
      fun _ =>
    Reader.fraction.next fun fraction =>
    Reader.exponent.next fun exponent =>
    Reader.give (numberOf? negative whole fraction exponent) := by
  funext s
  unfold readNumber Reader.next
  split
  next negative u hsign =>
  have hminus : Reader.minus s = some (negative, u) :=
    (minus_eq s).trans (congrArg some hsign)
  simp only [hminus, Reader.digits, Reader.give, Option.bind_some, exponent_bind]
  generalize u.takeWhile Char.isDigit = whole
  generalize u.dropWhile Char.isDigit = u
  generalize (!whole.isEmpty && (whole.length == 1 || whole.head? != some '0')) = b
  cases b with
  | false => rfl
  | true =>
    simp only [guard, if_true, Option.pure_def, Option.bind_eq_bind, Option.bind_some]
    split
    · next t =>
      rw [fraction_point]
      by_cases hds : (t.takeWhile Char.isDigit).isEmpty <;> simp only [hds] <;> rfl
    · next hne =>
      rw [fraction_absent hne]
      rfl

theorem readExponent_eq : readExponent =
    Reader.sign.next fun negative =>
    Reader.digits.next fun ds =>
    Reader.give ((natOf? ds).map fun n => if negative then -(n : Int) else n) := by
  funext s
  unfold readExponent Reader.next
  simp only [sign_eq, Reader.digits, Reader.give, Option.bind_some, Option.bind_map]
  obtain ⟨negative, u⟩ := splitSign s
  cases natOf? (u.takeWhile Char.isDigit) <;> rfl

theorem plain_of_isDigit {c : Char} (h : c.isDigit = true) : Plain c := by
  have hspan : 48 ≤ c.toNat ∧ c.toNat ≤ 57 := by
    simpa [Char.isDigit, Char.le_def, UInt32.le_iff_toNat_le] using h
  simp only [Plain, isBlank, Bool.or_eq_false_iff, Bool.and_eq_false_iff,
    decide_eq_false_iff_not, beq_eq_false_iff_ne]
  omega

theorem local_digits : Local Bare Reader.digits := by
  intro s ds rest h
  obtain ⟨rfl, rfl⟩ := Prod.mk.inj (Option.some.inj h)
  have hds : ∀ c ∈ s.takeWhile Char.isDigit, c.isDigit = true := fun c => List.mem_takeWhile_imp
  refine ⟨_, (List.takeWhile_append_dropWhile ..).symm, fun c hc => plain_of_isDigit (hds c hc),
    fun t ht => ?_⟩
  have hrest : ∀ c ∈ t.head?, c.isDigit = false := by
    intro c hc
    have := List.head?_dropWhile_not Char.isDigit s
    rw [Option.mem_def.1 (mem_head?_of_isBeginning ht hc)] at this
    simpa using this
  obtain ⟨htake, hdrop⟩ := cut_run hds hrest
  rw [Reader.digits, htake, hdrop]

theorem local_after {p : Char → Bool} {read : Reader α} (hp : ∀ c, p c = true → Plain c)
    (hread : Local Bare read) : Local Bare (Reader.after p read) := by
  intro s a rest h
  cases s with
  | nil =>
    obtain ⟨rfl, rfl⟩ := Prod.mk.inj (Option.some.inj h)
    refine ⟨[], rfl, by simp [Bare], fun t ht => ?_⟩
    rw [List.prefix_nil.1 ht]
    rfl
  | cons c s =>
    unfold Reader.after at h
    by_cases hc : p c
    · simp only [hc, if_true] at h
      obtain ⟨⟨b, s'⟩, hb, he⟩ := Option.map_eq_some_iff.1 h
      obtain ⟨rfl, rfl⟩ := Prod.mk.inj he
      obtain ⟨q, rfl, hq, htakes⟩ := hread hb
      refine ⟨c :: q, rfl, List.forall_mem_cons.2 ⟨hp c hc, hq⟩, fun t ht => ?_⟩
      simp only [List.cons_append, Reader.after, hc, if_true, htakes t ht, Option.map_some]
    · simp only [hc, if_false, Bool.false_eq_true] at h
      obtain ⟨rfl, rfl⟩ := Prod.mk.inj (Option.some.inj h)
      refine ⟨[], rfl, by simp [Bare], fun t ht => ?_⟩
      cases t with
      | nil => rfl
      | cons d t =>
        obtain ⟨rfl, -⟩ := List.cons_prefix_cons.1 ht
        simp only [List.nil_append, Reader.after, hc, if_false, Bool.false_eq_true]

theorem local_readExponent : Local Bare readExponent := by
  rw [readExponent_eq]
  refine Local.next ?_ fun negative => local_digits.next fun ds => .give _
  unfold Reader.sign
  refine (local_after (by simp; decide) (.give _)).next fun found => ?_
  split
  · exact .give _
  · exact (local_after (by simp; decide) (.give _)).next fun _ => .give _

theorem local_readNumber : Local Bare readNumber := by
  rw [readNumber_eq]
  refine Local.next ?_ fun negative => local_digits.next fun whole => (Local.give _).next fun _ =>
    Local.next ?_ fun fraction => Local.next ?_ fun exponent => .give _
  · exact (local_after (by simp; decide) (.give _)).next fun found => .give _
  · exact local_after (by simp; decide) (local_digits.next fun ds => .give _)
  · exact local_after (by simp; decide) local_readExponent

/-! ## Strings -/

theorem readString_plain {c : Char} (hquote : c ≠ '"') (hslash : c ≠ '\\')
    (hraw : ¬ c.toNat < 0x20) (s : List Char) :
    readString (c :: s) = prepend (some c) (readString s) := by
  rw [readString]
  · rw [if_neg (not_or.2 ⟨hraw, hslash⟩)]
  · exact hquote
  · intro a b c d rest he
    exact (hslash he).elim
  · intro c rest he
    exact (hslash he).elim

theorem readString_escape {c : Char} (hunit : c ≠ 'u') (s : List Char) :
    readString ('\\' :: c :: s) = prepend (simpleEscape? c) (readString s) := by
  rw [readString]
  simp_all

theorem readString_unit {a b c d : Char} {n : Nat} (hn : hexOf? [a, b, c, d] = some n)
    (hhigh : ¬ (0xD800 ≤ n ∧ n < 0xDC00)) (hlow : ¬ (0xDC00 ≤ n ∧ n < 0xE000)) (s : List Char) :
    readString ('\\' :: 'u' :: a :: b :: c :: d :: s)
      = prepend (some (Char.ofNat n)) (readString s) := by
  rw [readString]
  simp only [hn, if_neg hhigh, if_neg hlow]

theorem readString_pair {a b c d e f g h : Char} {n : Nat} (hn : hexOf? [a, b, c, d] = some n)
    (hhigh : 0xD800 ≤ n ∧ n < 0xDC00) (s : List Char) :
    readString ('\\' :: 'u' :: a :: b :: c :: d :: '\\' :: 'u' :: e :: f :: g :: h :: s)
      = prepend ((hexOf? [e, f, g, h]).bind (surrogatePair? n)) (readString s) := by
  rw [readString]
  simp only [hn, if_pos hhigh]

theorem prepend_eq_some {c : Option Char} {r : Option (List Char × List Char)} {cs rest : List Char}
    (h : prepend c r = some (cs, rest)) :
    ∃ c' cs', c = some c' ∧ cs = c' :: cs' ∧ r = some (cs', rest) := by
  obtain ⟨c', rfl, h⟩ := Option.bind_eq_some_iff.1 h
  obtain ⟨⟨cs', s⟩, rfl, h⟩ := Option.bind_eq_some_iff.1 h
  obtain ⟨rfl, rfl⟩ := Prod.mk.inj (Option.some.inj h)
  exact ⟨c', cs', rfl, rfl, rfl⟩

/-- A string ends at once, or a piece gives one character, whatever comes next. -/
theorem readString_cases {s cs rest : List Char} (h : readString s = some (cs, rest)) :
    (s = '"' :: rest ∧ cs = []) ∨
    ∃ piece s' c cs', piece ≠ [] ∧ s = piece ++ s' ∧ cs = c :: cs' ∧
      readString s' = some (cs', rest) ∧
      ∀ t, readString (piece ++ t) = prepend (some c) (readString t) := by
  unfold readString at h
  split at h
  · cases h
  · obtain ⟨rfl, rfl⟩ := Prod.mk.inj (Option.some.inj h)
    exact .inl ⟨rfl, rfl⟩
  · next a b c d s =>
    right
    split at h
    · cases h
    next n hn =>
    split at h
    · next hhigh =>
      split at h
      · next e f g k s =>
        obtain ⟨c', cs', hc, rfl, hs⟩ := prepend_eq_some h
        refine ⟨['\\', 'u', a, b, c, d, '\\', 'u', e, f, g, k], s, c', cs', by simp, rfl, rfl, hs,
          fun t => ?_⟩
        rw [← hc]
        exact readString_pair hn hhigh t
      · cases h
    · next hhigh =>
      split at h
      · cases h
      · next hlow =>
        obtain ⟨c', cs', hc, rfl, hs⟩ := prepend_eq_some h
        refine ⟨['\\', 'u', a, b, c, d], s, c', cs', by simp, rfl, rfl, hs, fun t => ?_⟩
        rw [← hc]
        exact readString_unit hn hhigh hlow t
  · next c s hne =>
    obtain ⟨c', cs', hc, rfl, hs⟩ := prepend_eq_some h
    have hunit : c ≠ 'u' := by
      rintro rfl
      cases hc
    refine .inr ⟨['\\', c], s, c', cs', by simp, rfl, rfl, hs, fun t => ?_⟩
    rw [← hc]
    exact readString_escape hunit t
  · next c s hquote hunit hescape =>
    split at h
    · cases h
    · next hraw =>
      rw [not_or] at hraw
      obtain ⟨c', cs', hc, rfl, hs⟩ := prepend_eq_some h
      obtain rfl := Option.some.inj hc
      exact .inr ⟨[c], s, c, cs', by simp, rfl, rfl, hs,
        readString_plain hquote hraw.2 hraw.1⟩

theorem local_readString : Local Firm readString := by
  intro s cs rest h
  induction hlength : s.length using Nat.strong_induction_on generalizing s cs with
  | h n ih =>
    obtain ⟨rfl, rfl⟩ | ⟨piece, s', c, cs', hne, rfl, rfl, hs, hpiece⟩ := readString_cases h
    · exact ⟨['"'], rfl, ⟨[], '"', rfl, by decide⟩, fun t _ => rfl⟩
    · have hpos := List.length_pos_iff.2 hne
      have hshort : s'.length < n := by
        rw [← hlength, List.length_append]
        omega
      obtain ⟨p, rfl, hp, htakes⟩ := ih _ hshort hs rfl
      refine ⟨piece ++ p, (List.append_assoc ..).symm, hp.append piece, fun t ht => ?_⟩
      rw [List.append_assoc, hpiece, htakes t ht]
      rfl

end TableClasses.Json
