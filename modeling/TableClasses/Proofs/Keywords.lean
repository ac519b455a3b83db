import TableClasses.Proofs.ClassNames
import TableClasses.Schema.DataType

/-!
# Keywords of data types

A data type is a word with a decoration: blanks before it, and after it anything that begins with a
blank or a parenthesis. The keyword is the small form of the word, whatever the decoration is and
whatever the case of its ASCII letters. The small form is taken of the whole text first, but a break
between words is no letter, so that no sigma changes with what stands behind it, and no small form of
another character is a break.
-/

namespace TableClasses.Text

/-! ## Small forms of parts -/

/-- What follows a text does not count for its end, if it begins with a character that is neither
cased nor ignored. -/
theorem meetsCased_append {t : List Char}
    (ht : ∀ c ∈ t.head?, isCased c = false ∧ isCaseIgnorable c = false) (s : List Char) :
    meetsCased (s ++ t) = meetsCased s := by
  unfold meetsCased
  rw [List.dropWhile_append]
  cases hs : s.dropWhile isCaseIgnorable with
  | cons c rest => rfl
  | nil =>
    cases t with
    | nil => rfl
    | cons c t =>
      obtain ⟨hcased, hignored⟩ := ht c rfl
      rw [List.isEmpty_nil, if_pos rfl, List.dropWhile_cons_of_neg (by rw [hignored]; decide)]
      exact hcased

theorem lowerAfter_append {t : List Char}
    (ht : ∀ c ∈ t.head?, isCased c = false ∧ isCaseIgnorable c = false) (seen s : List Char) :
    lowerAfter seen (s ++ t) = lowerAfter seen s ++ lowerAfter (s.reverse ++ seen) t := by
  induction s generalizing seen with
  | nil => rfl
  | cons c s ih =>
    rw [List.cons_append, lowerAfter, lowerAfter, meetsCased_append ht, ih, List.append_assoc,
      List.reverse_cons, List.append_assoc, List.singleton_append]

/-- A small form has a character of no other small form only where it stands already. -/
theorem not_mem_lowerAfter {d : Char} (hspares : spares lowerExpansions lowerShifts d = true)
    (hsigma : d ≠ 'ς' ∧ d ≠ 'σ') {s : List Char} (hd : d ∉ s) (seen : List Char) :
    d ∉ lowerAfter seen s := by
  induction s generalizing seen with
  | nil => exact List.not_mem_nil
  | cons c s ih =>
    rw [List.mem_cons, not_or] at hd
    rw [lowerAfter, List.mem_append, not_or]
    refine ⟨?_, ih hd.2 _⟩
    split
    · split
      · exact List.mem_singleton.not.2 hsigma.1
      · exact List.mem_singleton.not.2 hsigma.2
    · exact not_mem_mapCase hspares (Ne.symm hd.1)

theorem lowerAfter_ne_nil {s : List Char} (h : s ≠ []) (seen : List Char) :
    lowerAfter seen s ≠ [] := by
  cases s with
  | nil => exact absurd rfl h
  | cons c s =>
    rw [lowerAfter]
    refine List.append_ne_nil_of_left_ne_nil ?_ _
    split
    · exact List.cons_ne_nil _ _
    · exact lowerChar_ne_nil c

end TableClasses.Text

namespace TableClasses.Schema

open TableClasses.Text

/-! ## Breaks -/

/-- Whether a character ends the word of a data type. -/
def isBreak (c : Char) : Bool := isBlank c || c == '('

/-- The codes of all breaks. -/
def breakCodes : List Nat :=
  [9, 10, 11, 12, 13, 0x20, 0x28, 0x85, 0xA0, 0x1680, 0x2000, 0x2001, 0x2002, 0x2003, 0x2004, 0x2005,
   0x2006, 0x2007, 0x2008, 0x2009, 0x200A, 0x2028, 0x2029, 0x202F, 0x205F, 0x3000]

theorem toNat_mem_breakCodes {c : Char} (h : isBreak c = true) : c.toNat ∈ breakCodes := by
  obtain hblank | hopening := Bool.or_eq_true_iff.1 h
  · simp only [isBlank, Bool.or_eq_true, Bool.and_eq_true, decide_eq_true_eq, beq_iff_eq] at hblank
    simp only [breakCodes, List.mem_cons, List.not_mem_nil, or_false]
    omega
  · rw [beq_iff_eq.1 hopening]
    decide

/-- What holds of a character with each of the codes holds of every break. -/
theorem forall_break {P : Char → Prop} (h : ∀ n ∈ breakCodes, P (Char.ofNat n)) {c : Char}
    (hc : isBreak c = true) : P c := by
  rw [← Char.ofNat_toNat c]
  exact h _ (toNat_mem_breakCodes hc)

/-- A break is its own small form and that of no other character, and it is no letter. -/
theorem isBreak_spec {c : Char} (h : isBreak c = true) :
    (lowerChar c = [c] ∧ c ≠ 'Σ') ∧
      (spares lowerExpansions lowerShifts c = true ∧ c ≠ 'ς' ∧ c ≠ 'σ') ∧
      isCased c = false ∧ isCaseIgnorable c = false :=
  forall_break (P := fun c => (lowerChar c = [c] ∧ c ≠ 'Σ') ∧
      (spares lowerExpansions lowerShifts c = true ∧ c ≠ 'ς' ∧ c ≠ 'σ') ∧
      isCased c = false ∧ isCaseIgnorable c = false) (by decide +kernel) h

theorem isBreak_toLower (c : Char) : isBreak c.toLower = isBreak c :=
  forall_toLower (P := fun c d => isBreak d = isBreak c) (fun _ => rfl) (by decide) c

/-- Making a text small makes no breaks. -/
theorem isBreak_lowerAfter {s : List Char} (h : ∀ c ∈ s, isBreak c = false) (seen : List Char) :
    ∀ d ∈ lowerAfter seen s, isBreak d = false := by
  intro d hd
  by_contra hbreak
  rw [Bool.not_eq_false] at hbreak
  obtain ⟨-, ⟨hspares, hsigma⟩, -⟩ := isBreak_spec hbreak
  refine not_mem_lowerAfter hspares hsigma (fun hmem => ?_) seen hd
  rw [h d hmem] at hbreak
  cases hbreak

/-- The small form of a text that begins with a break begins with it too. -/
theorem isBreak_head?_lowerAfter {s : List Char} (h : ∀ c ∈ s.head?, isBreak c = true)
    (seen : List Char) : ∀ d ∈ (lowerAfter seen s).head?, isBreak d = true := by
  cases s with
  | nil => exact nofun
  | cons c s =>
    have hc := h c rfl
    obtain ⟨⟨hlower, hsigma⟩, -⟩ := isBreak_spec hc
    rw [lowerAfter, if_neg hsigma, hlower]
    intro d hd
    rwa [← Option.some.inj hd]

/-! ## Words -/

/-- A word of a data type: it is not empty and has neither blanks nor an opening parenthesis. -/
structure IsWord (w : String) : Prop where
  ne_empty : w ≠ ""
  free : ∀ c ∈ w.toList, isBreak c = false

theorem isWord_of_all {w : String} (hne : w ≠ "") (h : w.toList.all (!isBreak ·) = true) :
    IsWord w :=
  ⟨hne, fun c hc => by simpa using List.all_eq_true.1 h c hc⟩

theorem isBreak_eq_false_iff {c : Char} : isBreak c = false ↔ isBlank c = false ∧ c ≠ '(' := by
  rw [isBreak, Bool.or_eq_false_iff, beq_eq_false_iff_ne]

theorem IsWord.of_asciiLower_eq {w w' : String} (h : IsWord w)
    (hcase : asciiLower w' = asciiLower w) : IsWord w' := by
  have hchars : w'.toList.map Char.toLower = w.toList.map Char.toLower := by
    have := congrArg String.toList hcase
    rwa [asciiLower, asciiLower, toList_onChars, toList_onChars] at this
  constructor
  · rintro rfl
    refine h.ne_empty (String.toList_eq_nil_iff.1 ?_)
    exact List.map_eq_nil_iff.1 hchars.symm
  · intro c hc
    obtain ⟨d, hd, he⟩ := List.mem_map.1 (hchars ▸ List.mem_map_of_mem hc)
    rw [← isBreak_toLower, ← he, isBreak_toLower]
    exact h.free d hd

theorem firstWord_append {w rest : List Char} (hne : w ≠ []) (hw : ∀ c ∈ w, isBlank c = false)
    (hrest : ∀ c ∈ rest.head?, isBlank c = true) : firstWord (w ++ rest) = w := by
  have hstart : (w ++ rest).dropWhile isBlank = w ++ rest :=
    trimStart_append hne (trimStart_of_free hw) rest
  rw [firstWord, hstart]
  exact (cut_run (fun c hc => by rw [hw c hc]; rfl) fun c hc => by rw [hrest c hc]; rfl).1

/-- A word is what is read of a text in which it is followed by a break. -/
theorem firstWord_before_break {w rest : List Char} (hne : w ≠ [])
    (hw : ∀ c ∈ w, isBreak c = false) (hrest : ∀ c ∈ rest.head?, isBreak c = true) :
    firstWord ((w ++ rest).takeWhile (· != '(')) = w := by
  have hfree : ∀ c ∈ w, isBlank c = false ∧ c ≠ '(' := fun c hc => isBreak_eq_false_iff.1 (hw c hc)
  rw [List.takeWhile_append_of_pos fun c hc => bne_iff_ne.2 (hfree c hc).2]
  refine firstWord_append hne (fun c hc => (hfree c hc).1) fun c hc => ?_
  -- before a parenthesis only a blank is left to be the break
  rw [List.head?_takeWhile] at hc
  obtain ⟨hhead, hopening⟩ := Option.filter_eq_some_iff.1 hc
  have hbreak := hrest c hhead
  rwa [isBreak, beq_eq_false_iff_ne.2 (bne_iff_ne.1 hopening), Bool.or_false] at hbreak

/-- The keyword of a decorated word. -/
theorem keyword_decorated {w before after : String} (hw : IsWord w)
    (hbefore : isAllBlank before = true) (hafter : ∀ c ∈ after.toList.head?, isBreak c = true) :
    keyword (before ++ w ++ after) = lowerText w := by
  have hne : w.toList ≠ [] := mt String.toList_eq_nil_iff.1 hw.ne_empty
  have hfree : ∀ c ∈ w.toList, isBlank c = false := fun c hc =>
    (isBreak_eq_false_iff.1 (hw.free c hc)).1
  have htrim : trim isBlank (before ++ w ++ after).toList
      = w.toList ++ trimEnd isBlank after.toList := by
    rw [String.toList_append, String.toList_append]
    exact trim_between (List.all_eq_true.1 hbefore) hne (trimStart_of_free hfree)
      (trimEnd_of_free hfree) _
  -- what is left behind the word begins as before, if anything is left
  have hrest : ∀ c ∈ (trimEnd isBlank after.toList).head?, isBreak c = true := fun c hc =>
    hafter c (mem_head?_of_isBeginning (trimEnd_isBeginning isBlank after.toList) hc)
  generalize trimEnd isBlank after.toList = rest at htrim hrest
  rw [keyword, trimBlanks, lowerText, onChars, onChars, String.toList_ofList, String.toList_ofList,
    htrim, lowerAfter_append (fun c hc => (isBreak_spec (hrest c hc)).2.2), firstWord_before_break]
  · rfl
  · exact lowerAfter_ne_nil hne []
  · exact isBreak_lowerAfter hw.free []
  · exact isBreak_head?_lowerAfter hrest _

/-- In lists that share no word, the first one that has a word is the only one. -/
theorem find?_listed_iff {α : Type} {lists : List (α × List String)}
    (hunique : ∀ e ∈ lists, ∀ e' ∈ lists, ∀ k ∈ e.2, k ∈ e'.2 → e = e') {k : String} {a : α} :
    (lists.find? fun e => e.2.contains k).map (·.1) = some a ↔
      ∃ words, (a, words) ∈ lists ∧ k ∈ words := by
  constructor
  · intro h
    obtain ⟨e, hfind, rfl⟩ := Option.map_eq_some_iff.1 h
    have hlisted := List.find?_some hfind
    rw [List.contains_iff_mem] at hlisted
    exact ⟨e.2, List.mem_of_find?_eq_some hfind, hlisted⟩
  · rintro ⟨words, hmem, hk⟩
    cases hfind : lists.find? fun e => e.2.contains k with
    | none => exact absurd (List.contains_iff_mem.2 hk) (List.find?_eq_none.1 hfind _ hmem)
    | some e =>
      have hlisted := List.find?_some hfind
      rw [List.contains_iff_mem] at hlisted
      rw [hunique e (List.mem_of_find?_eq_some hfind) _ hmem k hlisted hk]
      rfl

/-- No keyword stands for two categories. -/
theorem keywords_unique : ∀ e ∈ keywords, ∀ e' ∈ keywords, ∀ k ∈ e.2, k ∈ e'.2 → e = e' := by
  decide

theorem scalarOf?_eq_some_iff {type : String} {s : Scalar} :
    scalarOf? type = some s ↔ ∃ words, (s, words) ∈ keywords ∧ keyword type ∈ words :=
  find?_listed_iff keywords_unique

theorem scalarOf_eq (type : String) :
    scalarOf type = match scalarOf? type with
      | some s => ⟨s, []⟩
      | none => ⟨.string, [.unsupportedDataType type]⟩ := by
  unfold scalarOf
  cases scalarOf? type <;> rfl

/-- Of every word of a data type in any case of its ASCII letters, with blanks before it and after it
nothing or what begins with a blank or a parenthesis: its category is that of the word alone, or both
have none; it is the one under which the small form of the word is listed; and the column gets it, or
else is a string with one warning. -/
theorem scalarOf_decorated {w w' before after : String} (hw : IsWord w)
    (hcase : asciiLower w' = asciiLower w) (hbefore : isAllBlank before = true)
    (hafter : ∀ c ∈ after.toList.head?, isBreak c = true) :
    scalarOf? (before ++ w' ++ after) = scalarOf? w ∧
    (∀ s, scalarOf? w = some s ↔ ∃ words, (s, words) ∈ keywords ∧ lowerText w ∈ words) ∧
    scalarOf (before ++ w' ++ after) = match scalarOf? w with
      | some s => ⟨s, []⟩
      | none => ⟨.string, [.unsupportedDataType (before ++ w' ++ after)]⟩ := by
  have hkeyword : keyword (before ++ w' ++ after) = lowerText w := by
    rw [keyword_decorated (hw.of_asciiLower_eq hcase) hbefore hafter, ← lowerText_asciiLower, hcase,
      lowerText_asciiLower]
  have hplain : keyword w = lowerText w := by
    have hnothing := @keyword_decorated w "" "" hw rfl nofun
    rwa [String.empty_append, String.append_empty] at hnothing
  have hscalar : scalarOf? (before ++ w' ++ after) = scalarOf? w := by
    rw [scalarOf?, hkeyword, scalarOf?, hplain]
  refine ⟨hscalar, fun s => ?_, by rw [scalarOf_eq, hscalar]⟩
  rw [scalarOf?_eq_some_iff, hplain]

/-- A known word, and one that ends in a capital sigma with a letter in the parentheses behind. -/
theorem scalarOf_decorated_bigint :
    (IsWord "bigint" ∧ asciiLower "BigInt" = asciiLower "bigint" ∧
      scalarOf ("\t " ++ "BigInt" ++ "(20) unsigned") = ⟨.int, []⟩) ∧
    (IsWord "xΣ" ∧ asciiLower "XΣ" = asciiLower "xΣ" ∧
      scalarOf? ("" ++ "XΣ" ++ "(Α)") = scalarOf? "xΣ" ∧
      scalarOf ("" ++ "XΣ" ++ "(Α)")
        = ⟨.string, [.unsupportedDataType ("" ++ "XΣ" ++ "(Α)")]⟩) := by
  have hbigint : IsWord "bigint" := isWord_of_all (by decide) (by decide)
  have hsigma : IsWord "xΣ" := isWord_of_all (by decide) (by decide)
  have hint : scalarOf? "bigint" = some .int := by decide +kernel
  have hnone : scalarOf? "xΣ" = none := by decide +kernel
  obtain ⟨-, -, hknown⟩ := @scalarOf_decorated "bigint" "BigInt" "\t " "(20) unsigned" hbigint
    (by decide) (by decide) (by rintro _ ⟨⟩; decide)
  obtain ⟨hsame, -, hunknown⟩ := @scalarOf_decorated "xΣ" "XΣ" "" "(Α)" hsigma
    (by decide) (by decide) (by rintro _ ⟨⟩; decide)
  rw [hint] at hknown
  rw [hnone] at hunknown
  exact ⟨⟨hbigint, by decide, hknown⟩, hsigma, by decide, hsame, hunknown⟩

end TableClasses.Schema
