import TableClasses.Naming.Style

/-!
# Characters of respelt names

A respelt name is made of the case forms of the letters and numbers of its words. Case mapping never
makes a line feed, an underscore or a mark of paths and names of another character, and it never
makes a capital sigma small text: what a table of shifts can give is read off its spans, which
`Spares` checks.
-/

namespace TableClasses.Text

/-! ## What case mapping does not give -/

/-- Whether a shift has no image with this code. -/
def Shift.spares (s : Shift) (n : Nat) : Bool :=
  decide ((n : Int) < s.span.first + s.offset) || decide (s.span.last + s.offset < (n : Int))

/-- Whether a case mapping gives a character only for itself, if at all. -/
def spares (expansions : List (Nat × List Nat)) (shifts : List Shift) (d : Char) : Bool :=
  d != Char.ofNat 0 && shifts.all (·.spares d.toNat) &&
    expansions.all fun e => e.2.all fun n => Char.ofNat n != d

theorem shifted_ne {shifts : List Shift} {n k : Nat} (h : ∀ s ∈ shifts, s.spares k = true)
    (hk : k ≠ 0) (hn : n ≠ k) : shifted shifts n ≠ k := by
  induction shifts with
  | nil => exact hn
  | cons s rest ih =>
    unfold shifted
    split
    · exact hn
    · split
      · next hhas =>
        have hspares := h s List.mem_cons_self
        simp only [Shift.spares, Bool.or_eq_true, decide_eq_true_eq] at hspares
        simp only [Span.has, Bool.and_eq_true, decide_eq_true_eq] at hhas
        omega
      · exact ih fun s hs => h s (List.mem_cons_of_mem _ hs)

theorem toNat_ofNat {n : Nat} (h : n.isValidChar) : (Char.ofNat n).toNat = n := by
  unfold Char.ofNat
  rw [dif_pos h]
  unfold Char.ofNatAux Char.toNat
  simp

/-- A property of the characters of ASCII is looked at one by one. -/
theorem forall_ascii {P : Char → Prop} (h : ∀ n ∈ List.range 128, P (Char.ofNat n)) {c : Char}
    (hc : c.toNat < 128) : P c := by
  rw [← Char.ofNat_toNat c]
  exact h _ (List.mem_range.2 hc)

theorem ofNat_ne {n : Nat} {d : Char} (hd : d ≠ Char.ofNat 0) (hn : n ≠ d.toNat) :
    Char.ofNat n ≠ d := by
  rintro rfl
  by_cases hvalid : n.isValidChar
  · exact hn (toNat_ofNat hvalid).symm
  · refine hd ?_
    rw [Char.ofNat, dif_neg hvalid]
    rfl

theorem not_mem_mapCase {expansions : List (Nat × List Nat)} {shifts : List Shift} {c d : Char}
    (h : spares expansions shifts d = true) (hc : c ≠ d) : d ∉ mapCase expansions shifts c := by
  simp only [spares, Bool.and_eq_true, List.all_eq_true, bne_iff_ne] at h
  obtain ⟨⟨hzero, hshifts⟩, hexpansions⟩ := h
  have hshifted : Char.ofNat (shifted shifts c.toNat) ≠ d := by
    refine ofNat_ne hzero (shifted_ne hshifts ?_ ?_)
    · exact fun he => hzero (Char.toNat_inj.1 he)
    · exact fun he => hc (Char.toNat_inj.1 he)
  unfold mapCase
  split
  · simpa using hshifted.symm
  · split
    · next ns hlookup =>
      intro hm
      obtain ⟨n, hn, he⟩ := List.mem_map.1 hm
      obtain ⟨before, after, rfl, -⟩ := List.lookup_eq_some_iff.1 hlookup
      exact hexpansions (c.toNat, ns) (by simp) n hn he
    · simpa using hshifted.symm

/-- Characters that end words and that case mapping makes of no other character. -/
def separators : List Char := ['\n', '_', '\\', '/', '.']

/-- What the tables say of separators, and of the capital sigma, which has no other capital form. -/
theorem spared_by_tables :
    separators.all (spares lowerExpansions lowerShifts) = true ∧
      separators.all (spares upperExpansions upperShifts) = true ∧
      spares lowerExpansions lowerShifts 'Σ' = true ∧ 'Σ' ∉ lowerChar 'Σ' ∧ 'Σ' ∈ upperChar 'Σ' := by
  decide +kernel

theorem not_mem_lowerChar {c d : Char} (hd : d ∈ separators) (hc : c ≠ d) : d ∉ lowerChar c :=
  not_mem_mapCase (List.all_eq_true.1 spared_by_tables.1 d hd) hc

theorem not_mem_upperChar {c d : Char} (hd : d ∈ separators) (hc : c ≠ d) : d ∉ upperChar c :=
  not_mem_mapCase (List.all_eq_true.1 spared_by_tables.2.1 d hd) hc

/-- A capital sigma is the small form of nothing, itself included. -/
theorem sigma_not_mem_lowerChar (c : Char) : 'Σ' ∉ lowerChar c := by
  obtain ⟨-, -, hspares, hsigma, -⟩ := spared_by_tables
  by_cases hc : c = 'Σ'
  · rw [hc]
    exact hsigma
  · exact not_mem_mapCase hspares hc

theorem mapCase_ne_nil {expansions : List (Nat × List Nat)} {shifts : List Shift} (c : Char)
    (h : expansions.all fun e => !e.2.isEmpty) : mapCase expansions shifts c ≠ [] := by
  unfold mapCase
  split
  · simp
  · split
    · next ns hlookup =>
      obtain ⟨before, after, rfl, -⟩ := List.lookup_eq_some_iff.1 hlookup
      have hns := List.all_eq_true.1 h (c.toNat, ns) (by simp)
      simpa using hns
    · simp

theorem lowerChar_ne_nil (c : Char) : lowerChar c ≠ [] := mapCase_ne_nil c (by decide)

/-! ## Small forms of texts -/

/-- Without a capital sigma, whose small form depends on its place, a text is made small character
by character. -/
theorem lowerAfter_of_not_mem {s : List Char} (h : 'Σ' ∉ s) (seen : List Char) :
    lowerAfter seen s = s.flatMap lowerChar := by
  induction s generalizing seen with
  | nil => rfl
  | cons c rest ih =>
    rw [List.mem_cons, not_or] at h
    rw [lowerAfter, if_neg (Ne.symm h.1), ih h.2, List.flatMap_cons]

/-- What holds of every character with itself holds of it with its small form, if it does so for the
letters A to Z. -/
theorem forall_toLower {P : Char → Char → Prop} (hrefl : ∀ c, P c c)
    (hcapital : ∀ n ∈ List.range 26, P (Char.ofNat (65 + n)) (Char.ofNat (65 + n)).toLower)
    (c : Char) : P c c.toLower := by
  by_cases hc : 'A'.val ≤ c.val ∧ c.val ≤ 'Z'.val
  · have hlow : 65 ≤ c.toNat := hc.1
    have hhigh : c.toNat ≤ 90 := hc.2
    have hvalid : (65 + (c.toNat - 65)).isValidChar := .inl (by omega)
    have hchar : Char.ofNat (65 + (c.toNat - 65)) = c := by
      apply Char.toNat_inj.1
      rw [toNat_ofNat hvalid]
      omega
    have hP := hcapital (c.toNat - 65) (List.mem_range.2 (by omega))
    rw [hchar] at hP
    exact hP
  · have hsame : c.toLower = c := dif_neg hc
    rw [hsame]
    exact hrefl c

/-- The small forms of A to Z behave like the capitals in every mapping of running text. -/
theorem toLower_spec (c : Char) :
    lowerChar c.toLower = lowerChar c ∧ isCased c.toLower = isCased c ∧
      isCaseIgnorable c.toLower = isCaseIgnorable c ∧ (c.toLower = 'Σ' ↔ c = 'Σ') :=
  forall_toLower (P := fun c d => lowerChar d = lowerChar c ∧ isCased d = isCased c ∧
      isCaseIgnorable d = isCaseIgnorable c ∧ (d = 'Σ' ↔ c = 'Σ'))
    (fun _ => ⟨rfl, rfl, rfl, .rfl⟩) (by decide +kernel) c

theorem meetsCased_toLower (s : List Char) : meetsCased (s.map Char.toLower) = meetsCased s := by
  induction s with
  | nil => rfl
  | cons c rest ih =>
    unfold meetsCased at ih ⊢
    rw [List.map_cons, List.dropWhile_cons, List.dropWhile_cons, (toLower_spec c).2.2.1]
    by_cases hc : isCaseIgnorable c = true
    · rw [if_pos hc, if_pos hc]
      exact ih
    · rw [if_neg hc, if_neg hc]
      exact (toLower_spec c).2.1

theorem lowerAfter_toLower (seen s : List Char) :
    lowerAfter (seen.map Char.toLower) (s.map Char.toLower) = lowerAfter seen s := by
  induction s generalizing seen with
  | nil => rfl
  | cons c rest ih =>
    have htail := ih (c :: seen)
    rw [List.map_cons] at htail
    obtain ⟨hlower, -, -, hsigma⟩ := toLower_spec c
    rw [List.map_cons, lowerAfter, lowerAfter, htail, meetsCased_toLower, meetsCased_toLower, hlower]
    simp only [hsigma]

/-- Texts that differ in the case of ASCII letters have one small form. -/
theorem lowerText_asciiLower (s : String) : lowerText (asciiLower s) = lowerText s := by
  rw [lowerText, lowerText, onChars, onChars, asciiLower, toList_onChars]
  exact congrArg String.ofList (lowerAfter_toLower [] s.toList)

theorem asciiLower_append (s t : String) : asciiLower (s ++ t) = asciiLower s ++ asciiLower t := by
  apply String.toList_injective
  simp [asciiLower]

theorem not_mem_intercalate {c : Char} {stop : List Char} {parts : List (List Char)}
    (hstop : c ∉ stop) (hparts : ∀ part ∈ parts, c ∉ part) : c ∉ stop.intercalate parts := by
  induction parts with
  | nil => exact List.not_mem_nil
  | cons part rest ih =>
    obtain ⟨hpart, hrest⟩ := List.forall_mem_cons.1 hparts
    cases rest with
    | nil => simpa using hpart
    | cons next rest => simpa [List.intercalate, hpart, hstop] using ih hrest

end TableClasses.Text

namespace TableClasses.Naming

open TableClasses.Text

/-! ## Words -/

theorem forall_mem_runs (s : List Char) :
    ∀ r ∈ runs s, ∀ c ∈ r, c ∈ s ∧ isAlphanumeric c = true := by
  induction s with
  | nil => simp [runs]
  | cons c rest ih =>
    have hih : ∀ r ∈ runs rest, ∀ d ∈ r, d ∈ c :: rest ∧ isAlphanumeric d = true :=
      fun r hr d hd => ⟨List.mem_cons_of_mem c (ih r hr d hd).1, (ih r hr d hd).2⟩
    unfold runs
    split
    · simp
    · next r rs hruns =>
      rw [hruns, List.forall_mem_cons] at hih
      split
      · next hc =>
        have hhead := List.forall_mem_cons.2 ⟨⟨List.mem_cons_self, hc⟩, hih.1⟩
        exact List.forall_mem_cons.2 ⟨hhead, hih.2⟩
      · exact List.forall_mem_cons.2 ⟨by simp, List.forall_mem_cons.2 hih⟩

/-- The cut neither loses nor adds a character, and it makes no empty word. -/
theorem cutCase_spec (word : List Char) (mode : Mode) (s : List Char) (hs : s ≠ [])
    (hmode : mode = .upper → word ≠ []) :
    (cutCase word mode s).flatten = word.reverse ++ s ∧ ∀ w ∈ cutCase word mode s, w ≠ [] := by
  fun_induction cutCase word mode s with
  | case1 => exact absurd rfl hs
  | case2 word mode c => simp
  | case3 word mode c next rest _ ih =>
    obtain ⟨hflat, hne⟩ := ih (by simp) (by simp)
    exact ⟨by simp [hflat], List.forall_mem_cons.2 ⟨by simp, hne⟩⟩
  | case4 word mode c next rest _ hcut ih =>
    obtain ⟨hflat, hne⟩ := ih (by simp) (by simp)
    simp only [Bool.and_eq_true, decide_eq_true_eq] at hcut
    exact ⟨by simp [hflat], List.forall_mem_cons.2 ⟨by simpa using hmode hcut.1.1, hne⟩⟩
  | case5 word mode c next rest _ _ ih =>
    obtain ⟨hflat, hne⟩ := ih (by simp) (by simp)
    exact ⟨by simp [hflat], hne⟩

theorem mem_words {s w : List Char} (hw : w ∈ words s) :
    w ≠ [] ∧ ∀ c ∈ w, c ∈ s ∧ isAlphanumeric c = true := by
  obtain ⟨r, hr, hw⟩ := List.mem_flatMap.1 hw
  cases r with
  | nil => cases hw
  | cons c rest =>
    obtain ⟨hflat, hne⟩ := cutCase_spec [] .boundary (c :: rest) (by simp) (by simp)
    refine ⟨hne w hw, fun d hd => forall_mem_runs s _ hr d ?_⟩
    have hmem := List.mem_flatten.2 ⟨w, hw, hd⟩
    rw [hflat] at hmem
    exact hmem

/-! ## Characters of the spellings -/

theorem not_mem_lowerWord {d : Char} (hd : d ∈ separators) {w : List Char} (hw : d ∉ w) :
    d ∉ lowerWord w := by
  fun_induction lowerWord w with
  | case1 => exact hw
  | case2 =>
    have hfinal : separators.all (· != 'ς') = true := by decide
    simpa using List.all_eq_true.1 hfinal d hd
  | case3 c rest _ ih =>
    rw [List.mem_cons, not_or] at hw
    rw [List.mem_append, not_or]
    exact ⟨not_mem_lowerChar hd (Ne.symm hw.1), ih hw.2⟩

theorem not_mem_capitalize {d : Char} (hd : d ∈ separators) {w : List Char} (hw : d ∉ w) :
    d ∉ capitalize w := by
  cases w with
  | nil => exact hw
  | cons c rest =>
    rw [List.mem_cons, not_or] at hw
    rw [capitalize, List.mem_append, not_or]
    exact ⟨not_mem_upperChar hd (Ne.symm hw.1), not_mem_lowerWord hd hw.2⟩

/-- Words have no separators. -/
theorem not_mem_word {d : Char} (hd : d ∈ separators) {s w : List Char} (hw : w ∈ words s) :
    d ∉ w := by
  have hseparators : separators.all (!isAlphanumeric ·) = true := by decide
  have hseparator := List.all_eq_true.1 hseparators d hd
  intro hm
  rw [((mem_words hw).2 d hm).2] at hseparator
  cases hseparator

theorem not_mem_camel {d : Char} (hd : d ∈ separators) (s : String) : d ∉ (camel s).toList := by
  rw [camel, toList_onChars, camelChars]
  split
  · exact List.not_mem_nil
  · next w ws hwords =>
    have hword : ∀ v ∈ w :: ws, d ∉ v := fun v hv => not_mem_word hd (hwords ▸ hv)
    rw [List.mem_append, not_or]
    refine ⟨not_mem_lowerWord hd (hword w List.mem_cons_self), fun hm => ?_⟩
    obtain ⟨v, hv, hm⟩ := List.mem_flatMap.1 hm
    exact not_mem_capitalize hd (hword v (List.mem_cons_of_mem w hv)) hm

theorem not_mem_pascal {d : Char} (hd : d ∈ separators) (s : String) : d ∉ (pascal s).toList := by
  rw [pascal, toList_onChars, pascalChars]
  intro hm
  obtain ⟨w, hw, hm⟩ := List.mem_flatMap.1 hm
  exact not_mem_capitalize hd (not_mem_word hd hw) hm

/-- Only the underscores between the words are new. -/
theorem not_mem_snake {d : Char} (hd : d ∈ separators) (hne : d ≠ '_') (s : String) :
    d ∉ (snake s).toList := by
  rw [snake, toList_onChars, snakeChars]
  refine not_mem_intercalate (by simpa using hne) (List.forall_mem_map.2 fun w hw => ?_)
  exact not_mem_lowerWord hd (not_mem_word hd hw)

/-! ## Names with regular initials -/

/-- Whether the capital form of a character has the small form of the character, wherever it
stands. -/
def Regular (c : Char) : Prop :=
  'Σ' ∉ upperChar c ∧ (upperChar c).flatMap lowerChar = (lowerChar c).flatMap lowerChar

instance : DecidablePred Regular := fun _ => inferInstanceAs (Decidable (_ ∧ _))

/-- A name in which every word begins regularly. -/
def Faithful (name : String) : Prop := ∀ w ∈ words name.toList, ∀ c ∈ w.head?, Regular c

instance : DecidablePred Faithful := fun name =>
  decidable_of_iff
    (((words name.toList).all fun w => w.head?.all fun c => decide (Regular c)) = true)
    (by simp [Faithful, Option.all_eq_true])

/-- The small form of the words of a name in a row. -/
def flat (s : List Char) : List Char := ((words s).flatMap lowerWord).flatMap lowerChar

theorem Regular.ne_sigma {c : Char} (h : Regular c) : c ≠ 'Σ' := by
  rintro rfl
  exact h.1 spared_by_tables.2.2.2.2

theorem regular_of_ascii {c : Char} (h : c.toNat < 128) : Regular c :=
  forall_ascii (by decide +kernel) h

theorem faithful_of_ascii {name : String} (h : ∀ c ∈ name.toList, c.toNat < 128) :
    Faithful name := by
  intro w hw c hc
  exact regular_of_ascii (h c ((mem_words hw).2 c (List.mem_of_head? hc)).1)

theorem sigma_not_mem_lowerWord (w : List Char) : 'Σ' ∉ lowerWord w := by
  fun_induction lowerWord w with
  | case1 => exact List.not_mem_nil
  | case2 => decide
  | case3 c rest _ ih =>
    rw [List.mem_append, not_or]
    exact ⟨sigma_not_mem_lowerChar c, ih⟩

/-- A word may be capitalized or not: its letters have the same small forms. -/
theorem Regular.capitalize_spec {w : List Char} (h : ∀ c ∈ w.head?, Regular c) :
    'Σ' ∉ capitalize w ∧
      (capitalize w).flatMap lowerChar = (lowerWord w).flatMap lowerChar := by
  cases w with
  | nil => exact ⟨List.not_mem_nil, rfl⟩
  | cons c rest =>
    have hc : Regular c := h c rfl
    have hword : lowerWord (c :: rest) = lowerChar c ++ lowerWord rest := by
      rw [lowerWord]
      exact fun he _ => hc.ne_sigma he
    rw [capitalize, hword, List.flatMap_append, List.flatMap_append, hc.2, List.mem_append, not_or]
    exact ⟨⟨hc.1, sigma_not_mem_lowerWord rest⟩, rfl⟩

theorem capitalize_words {ws : List (List Char)} (h : ∀ w ∈ ws, ∀ c ∈ w.head?, Regular c) :
    'Σ' ∉ ws.flatMap capitalize ∧
      (ws.flatMap capitalize).flatMap lowerChar = (ws.flatMap lowerWord).flatMap lowerChar := by
  induction ws with
  | nil => exact ⟨List.not_mem_nil, rfl⟩
  | cons w rest ih =>
    rw [List.forall_mem_cons] at h
    obtain ⟨hsigma, hsmall⟩ := Regular.capitalize_spec h.1
    obtain ⟨hsigma', hsmall'⟩ := ih h.2
    simp only [List.flatMap_cons, List.flatMap_append, List.mem_append, not_or, hsmall, hsmall']
    exact ⟨⟨hsigma, hsigma'⟩, trivial⟩

theorem Faithful.lowerText_pascal {name : String} (h : Faithful name) :
    lowerText (pascal name) = String.ofList (flat name.toList) := by
  obtain ⟨hsigma, hsmall⟩ := capitalize_words h
  rw [lowerText, onChars, pascal, toList_onChars, pascalChars, lowerAfter_of_not_mem hsigma, hsmall,
    flat]

theorem Faithful.lowerText_camel {name : String} (h : Faithful name) :
    lowerText (camel name) = String.ofList (flat name.toList) := by
  unfold Faithful at h
  rw [lowerText, onChars, camel, toList_onChars, camelChars, flat]
  split
  · next hwords =>
    rw [hwords]
    rfl
  · next w ws hwords =>
    rw [hwords, List.forall_mem_cons] at h
    obtain ⟨hsigma, hsmall⟩ := capitalize_words h.2
    have hmem : 'Σ' ∉ lowerWord w ++ ws.flatMap capitalize := by
      rw [List.mem_append, not_or]
      exact ⟨sigma_not_mem_lowerWord w, hsigma⟩
    rw [lowerAfter_of_not_mem hmem, hwords, List.flatMap_cons, List.flatMap_append,
      List.flatMap_append, hsmall]

/-! ## Names in snake case -/

theorem lowerWord_ne_nil {w : List Char} (h : w ≠ []) : lowerWord w ≠ [] := by
  fun_induction lowerWord w with
  | case1 => exact absurd rfl h
  | case2 => simp
  | case3 c rest _ _ => simp [lowerChar_ne_nil c]

/-- Underscores show where words end. -/
theorem intercalate_injective {ls ms : List (List Char)} (hls : ∀ l ∈ ls, l ≠ [] ∧ '_' ∉ l)
    (hms : ∀ m ∈ ms, m ≠ [] ∧ '_' ∉ m) (h : ['_'].intercalate ls = ['_'].intercalate ms) :
    ls = ms := by
  have hsplit : ∀ ks : List (List Char), (∀ k ∈ ks, k ≠ [] ∧ '_' ∉ k) → ks ≠ [] →
      (['_'].intercalate ks).splitOn '_' = ks :=
    fun ks hks hne => List.splitOn_intercalate '_' (fun k hk => (hks k hk).2) hne
  have hempty : ∀ ks : List (List Char), (∀ k ∈ ks, k ≠ [] ∧ '_' ∉ k) →
      ['_'].intercalate ks = [] → ks = [] := by
    intro ks hks he
    by_cases hne : ks = []
    · exact hne
    · have hks' := hsplit ks hks hne
      rw [he] at hks'
      exact absurd rfl (hks [] (by rw [← hks']; simp)).1
  by_cases hne : ls = []
  · subst hne
    exact (hempty ms hms h.symm).symm
  · have hne' : ms ≠ [] := by
      rintro rfl
      exact hne (hempty ls hls h)
    rw [← hsplit ls hls hne, ← hsplit ms hms hne', h]

theorem flat_eq_of_snake_eq {s t : String} (h : snake s = snake t) :
    flat s.toList = flat t.toList := by
  have hwords : ∀ u : List Char, ∀ l ∈ (words u).map lowerWord, l ≠ [] ∧ '_' ∉ l := by
    intro u l hl
    obtain ⟨w, hw, rfl⟩ := List.mem_map.1 hl
    exact ⟨lowerWord_ne_nil (mem_words hw).1,
      not_mem_lowerWord (by decide) (not_mem_word (by decide) hw)⟩
  have hchars : snakeChars s.toList = snakeChars t.toList := by
    have := congrArg String.toList h
    rwa [snake, snake, toList_onChars, toList_onChars] at this
  have hlower := intercalate_injective (hwords _) (hwords _) hchars
  have hflat : ∀ ws : List (List Char), ws.flatMap lowerWord = (ws.map lowerWord).flatten :=
    fun ws => List.flatMap_def
  rw [flat, flat, hflat, hflat, hlower]

end TableClasses.Naming
