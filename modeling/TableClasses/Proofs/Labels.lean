import Mathlib.Data.List.Basic
import TableClasses.Proofs.Spelling

/-!
# Names as labels of the language

The language takes a name if it begins with a letter, an underscore or a character beyond ASCII and
goes on with these and digits. Case mapping gives a character itself or one with which a label may
begin, and words have letters and numbers only, so whether a respelt name is a label depends on the
first letter or number of the original alone.
-/

namespace TableClasses.Text

/-! ## Labels -/

/-- Whether a label may begin with the character: a letter of ASCII, an underscore or anything
beyond. -/
def isLabelStart (c : Char) : Bool :=
  let n := c.toNat
  decide (65 ≤ n) && decide (n ≤ 90) || decide (97 ≤ n) && decide (n ≤ 122) || n == 95
    || decide (128 ≤ n)

def isLabelPart (c : Char) : Bool := isLabelStart c || c.isDigit

/-- Whether a text can be a name in the language. -/
def isLabel (s : String) : Bool :=
  match s.toList with
  | [] => false
  | c :: rest => isLabelStart c && rest.all isLabelPart

theorem isLabelPart_of_start {c : Char} (h : isLabelStart c = true) : isLabelPart c = true := by
  rw [isLabelPart, h, Bool.true_or]

theorem isLabel_iff {s : String} :
    isLabel s = true ↔
      (∃ c, s.toList.head? = some c ∧ isLabelStart c = true) ∧
        ∀ c ∈ s.toList, isLabelPart c = true := by
  unfold isLabel
  cases s.toList with
  | nil => simp
  | cons c rest =>
    simp only [Bool.and_eq_true, List.all_eq_true, List.head?_cons, Option.some.injEq,
      exists_eq_left', List.forall_mem_cons]
    constructor
    · rintro ⟨hstart, hrest⟩
      exact ⟨hstart, isLabelPart_of_start hstart, hrest⟩
    · rintro ⟨hstart, -, hrest⟩
      exact ⟨hstart, hrest⟩

theorem isDigit_iff {c : Char} : c.isDigit = true ↔ 48 ≤ c.toNat ∧ c.toNat ≤ 57 := by
  rw [Char.isDigit, Bool.and_eq_true, decide_eq_true_eq, decide_eq_true_eq]
  exact Iff.rfl

theorem isLabelStart_iff {c : Char} :
    isLabelStart c = true ↔ 65 ≤ c.toNat ∧ c.toNat ≤ 90 ∨ 97 ≤ c.toNat ∧ c.toNat ≤ 122 ∨
      c.toNat = 95 ∨ 128 ≤ c.toNat := by
  simp only [isLabelStart, Bool.or_eq_true, Bool.and_eq_true, decide_eq_true_eq, beq_iff_eq,
    or_assoc]

theorem isLabelStart_of_isDigit {c : Char} (h : c.isDigit = true) : isLabelStart c = false := by
  rw [isDigit_iff] at h
  rw [Bool.eq_false_iff, Ne, isLabelStart_iff]
  omega

theorem isLabelPart_of_isAlphanumeric {c : Char} (h : isAlphanumeric c = true) :
    isLabelPart c = true := by
  by_cases hc : c.toNat < 128
  · revert h
    exact forall_ascii (P := fun c => isAlphanumeric c = true → isLabelPart c = true)
      (by decide +kernel) hc
  · exact isLabelPart_of_start (isLabelStart_iff.2 (by omega))

/-! ## Case forms -/

/-- A code of a letter of ASCII or of a character beyond. -/
def IsStartCode (n : Nat) : Prop :=
  65 ≤ n ∧ n ≤ 90 ∨ 97 ≤ n ∧ n ≤ 122 ∨ 128 ≤ n ∧ n < 0xD800 ∨ 0xE000 ≤ n ∧ n < 0x110000

instance : DecidablePred IsStartCode := fun _ => inferInstanceAs (Decidable (_ ∨ _))

theorem isLabelStart_ofNat {n : Nat} (h : IsStartCode n) : isLabelStart (Char.ofNat n) = true := by
  unfold IsStartCode at h
  have hvalid : n.isValidChar := by
    show n < 0xD800 ∨ 0xDFFF < n ∧ n < 0x110000
    omega
  rw [isLabelStart_iff, toNat_ofNat hvalid]
  omega

/-- Whether all images of a shift have such codes. -/
def Shift.toStarts (s : Shift) : Bool :=
  let first := s.span.first + s.offset
  let last := s.span.last + s.offset
  decide (65 ≤ first) && decide (last ≤ 90) || decide (97 ≤ first) && decide (last ≤ 122)
    || decide (128 ≤ first) && decide (last < 0xD800)
    || decide (0xE000 ≤ first) && decide (last < 0x110000)

theorem shifted_cases {shifts : List Shift} (h : ∀ s ∈ shifts, s.toStarts = true) (n : Nat) :
    shifted shifts n = n ∨ IsStartCode (shifted shifts n) := by
  induction shifts with
  | nil => exact .inl rfl
  | cons s rest ih =>
    rw [List.forall_mem_cons] at h
    unfold shifted
    split
    · exact .inl rfl
    · split
      · next hhas =>
        obtain ⟨hs, -⟩ := h
        simp only [Shift.toStarts, Bool.or_eq_true, Bool.and_eq_true, decide_eq_true_eq] at hs
        simp only [Span.has, Bool.and_eq_true, decide_eq_true_eq] at hhas
        unfold IsStartCode
        omega
      · exact ih h.2

/-- Whether a case mapping gives of each character itself or characters with which labels begin. -/
def mapsToStarts (expansions : List (Nat × List Nat)) (shifts : List Shift) : Bool :=
  shifts.all Shift.toStarts && expansions.all fun e => e.2.all fun n => decide (IsStartCode n)

theorem of_mem_mapCase {expansions : List (Nat × List Nat)} {shifts : List Shift} {c d : Char}
    (h : mapsToStarts expansions shifts = true) (hd : d ∈ mapCase expansions shifts c) :
    d = c ∨ isLabelStart d = true := by
  simp only [mapsToStarts, Bool.and_eq_true, List.all_eq_true, decide_eq_true_eq] at h
  have hshifted : Char.ofNat (shifted shifts c.toNat) = c ∨
      isLabelStart (Char.ofNat (shifted shifts c.toNat)) = true := by
    obtain hsame | hstart := shifted_cases h.1 c.toNat
    · exact .inl (by rw [hsame, Char.ofNat_toNat])
    · exact .inr (isLabelStart_ofNat hstart)
  unfold mapCase at hd
  split at hd
  · rw [List.mem_singleton.1 hd]
    exact hshifted
  · split at hd
    · next ns hlookup =>
      obtain ⟨n, hn, rfl⟩ := List.mem_map.1 hd
      obtain ⟨before, after, rfl, -⟩ := List.lookup_eq_some_iff.1 hlookup
      exact .inr (isLabelStart_ofNat (h.2 (c.toNat, ns) (by simp) n hn))
    · rw [List.mem_singleton.1 hd]
      exact hshifted

theorem caseForms_toStarts :
    mapsToStarts upperExpansions upperShifts = true ∧
      mapsToStarts lowerExpansions lowerShifts = true := by
  decide +kernel

theorem of_mem_upperChar {c d : Char} (hd : d ∈ upperChar c) : d = c ∨ isLabelStart d = true :=
  of_mem_mapCase caseForms_toStarts.1 hd

theorem of_mem_lowerChar {c d : Char} (hd : d ∈ lowerChar c) : d = c ∨ isLabelStart d = true :=
  of_mem_mapCase caseForms_toStarts.2 hd

theorem upperChar_ne_nil (c : Char) : upperChar c ≠ [] := mapCase_ne_nil c (by decide)

/-- Both tables begin with letters, so what comes before is its own form. -/
theorem caseForms_of_isDigit {c : Char} (h : c.isDigit = true) :
    upperChar c = [c] ∧ lowerChar c = [c] := by
  rw [isDigit_iff] at h
  have hupper : shifted upperShifts c.toNat = c.toNat := if_pos (by show c.toNat < 97; omega)
  have hlower : shifted lowerShifts c.toNat = c.toNat := if_pos (by show c.toNat < 65; omega)
  have hascii : c.toNat < 0x80 := by omega
  rw [upperChar, lowerChar, mapCase, mapCase, if_pos hascii, if_pos hascii, hupper, hlower,
    Char.ofNat_toNat]
  exact ⟨rfl, rfl⟩

/-- The first character of a case form of a letter or number. -/
theorem head?_of_form {form : Char → List Char} {c : Char} (hne : form c ≠ [])
    (hform : ∀ d ∈ form c, d = c ∨ isLabelStart d = true)
    (hdigit : c.isDigit = true → form c = [c]) (hc : isAlphanumeric c = true) :
    ∃ d, (form c).head? = some d ∧ (isLabelStart d = true ↔ c.isDigit = false) := by
  obtain ⟨d, rest, hd⟩ := List.exists_cons_of_ne_nil hne
  refine ⟨d, by rw [hd]; rfl, ?_⟩
  cases hisDigit : c.isDigit with
  | true =>
    have hsame : d = c := by
      rw [hdigit hisDigit] at hd
      exact (List.cons.inj hd).1.symm
    rw [hsame, isLabelStart_of_isDigit hisDigit]
    decide
  | false =>
    refine iff_of_true ?_ rfl
    obtain rfl | hstart := hform d (by rw [hd]; exact List.mem_cons_self)
    · have hpart := isLabelPart_of_isAlphanumeric hc
      rwa [isLabelPart, hisDigit, Bool.or_false] at hpart
    · exact hstart

end TableClasses.Text

namespace TableClasses.Naming

open TableClasses.Text

/-! ## Words -/

theorem runs_ne_nil (s : List Char) : runs s ≠ [] := by
  cases s with
  | nil => exact List.cons_ne_nil _ _
  | cons c rest =>
    unfold runs
    split
    · exact List.cons_ne_nil _ _
    · split <;> exact List.cons_ne_nil _ _

theorem flatten_runs (s : List Char) : (runs s).flatten = s.filter isAlphanumeric := by
  induction s with
  | nil => rfl
  | cons c rest ih =>
    unfold runs
    cases hruns : runs rest with
    | nil => exact absurd hruns (runs_ne_nil rest)
    | cons r rs =>
      rw [hruns, List.flatten_cons] at ih
      by_cases hc : isAlphanumeric c = true
      · simp [hc, ← ih]
      · simp [hc, ← ih]

/-- Words are the letters and numbers of a name, cut. -/
theorem flatten_words (s : List Char) : (words s).flatten = s.filter isAlphanumeric := by
  have hcut : ∀ r : List Char, (cutCase [] .boundary r).flatten = r := by
    intro r
    cases r with
    | nil => rfl
    | cons c rest => exact (cutCase_spec [] .boundary (c :: rest) (by simp) (by simp)).1
  have hflat : (words s).flatten = (runs s).flatten := by
    unfold words
    generalize runs s = rs
    induction rs with
    | nil => rfl
    | cons r rs ih => rw [List.flatMap_cons, List.flatten_append, ih, hcut, List.flatten_cons]
  rw [hflat, flatten_runs]

/-- The first letter or number of a name. -/
def initial? (name : String) : Option Char := name.toList.find? isAlphanumeric

/-- The first word of a name, if it has any, begins with its first letter or number. -/
theorem words_cases (name : String) :
    words name.toList = [] ∧ initial? name = none ∨
      ∃ c rest ws, words name.toList = (c :: rest) :: ws ∧ initial? name = some c := by
  have hhead : (words name.toList).flatten.head? = initial? name := by
    rw [flatten_words, List.head?_filter, initial?]
  cases hwords : words name.toList with
  | nil =>
    rw [hwords] at hhead
    exact .inl ⟨rfl, hhead.symm⟩
  | cons w ws =>
    cases w with
    | nil => exact absurd rfl (mem_words (hwords ▸ List.mem_cons_self)).1
    | cons c rest =>
      rw [hwords] at hhead
      exact .inr ⟨c, rest, ws, rfl, hhead.symm⟩

/-! ## Respelt names -/

theorem isLabelPart_lowerWord {w : List Char} (hw : ∀ c ∈ w, isAlphanumeric c = true) :
    ∀ d ∈ lowerWord w, isLabelPart d = true := by
  fun_induction lowerWord w with
  | case1 => exact List.forall_mem_nil _
  | case2 => exact List.forall_mem_singleton.2 (by decide)
  | case3 c rest _ ih =>
    rw [List.forall_mem_cons] at hw
    rw [List.forall_mem_append]
    refine ⟨fun d hd => ?_, ih hw.2⟩
    obtain rfl | hstart := of_mem_lowerChar hd
    · exact isLabelPart_of_isAlphanumeric hw.1
    · exact isLabelPart_of_start hstart

theorem isLabelPart_capitalize {w : List Char} (hw : ∀ c ∈ w, isAlphanumeric c = true) :
    ∀ d ∈ capitalize w, isLabelPart d = true := by
  cases w with
  | nil => exact List.forall_mem_nil _
  | cons c rest =>
    rw [List.forall_mem_cons] at hw
    rw [capitalize, List.forall_mem_append]
    refine ⟨fun d hd => ?_, isLabelPart_lowerWord hw.2⟩
    obtain rfl | hstart := of_mem_upperChar hd
    · exact isLabelPart_of_isAlphanumeric hw.1
    · exact isLabelPart_of_start hstart

theorem isLabelPart_flatMap_capitalize {ws : List (List Char)}
    (h : ∀ w ∈ ws, ∀ c ∈ w, isAlphanumeric c = true) :
    ∀ d ∈ ws.flatMap capitalize, isLabelPart d = true := by
  intro d hd
  obtain ⟨w, hw, hd⟩ := List.mem_flatMap.1 hd
  exact isLabelPart_capitalize (h w hw) d hd

theorem isAlphanumeric_of_mem_words {s : List Char} :
    ∀ w ∈ words s, ∀ c ∈ w, isAlphanumeric c = true :=
  fun _ hw c hc => ((mem_words hw).2 c hc).2

theorem isLabelPart_pascal (name : String) : ∀ d ∈ (pascal name).toList, isLabelPart d = true := by
  rw [pascal, toList_onChars]
  exact isLabelPart_flatMap_capitalize isAlphanumeric_of_mem_words

theorem isLabelPart_camel (name : String) : ∀ d ∈ (camel name).toList, isLabelPart d = true := by
  rw [camel, toList_onChars, camelChars]
  have hwords := isAlphanumeric_of_mem_words (s := name.toList)
  cases hws : words name.toList with
  | nil => exact List.forall_mem_nil _
  | cons w ws =>
    rw [hws, List.forall_mem_cons] at hwords
    exact List.forall_mem_append.2
      ⟨isLabelPart_lowerWord hwords.1, isLabelPart_flatMap_capitalize hwords.2⟩

/-- The first character of a word in capitals or in small letters. -/
theorem head?_capitalize {c : Char} (hc : isAlphanumeric c = true) (rest : List Char) :
    ∃ d, (capitalize (c :: rest)).head? = some d ∧ (isLabelStart d = true ↔ c.isDigit = false) := by
  obtain ⟨d, hd, hstart⟩ := head?_of_form (upperChar_ne_nil c) (fun _ => of_mem_upperChar)
    (fun h => (caseForms_of_isDigit h).1) hc
  refine ⟨d, ?_, hstart⟩
  rw [capitalize, List.head?_append_of_ne_nil _ (upperChar_ne_nil c), hd]

theorem head?_lowerWord {c : Char} (hc : isAlphanumeric c = true) (rest : List Char) :
    ∃ d, (lowerWord (c :: rest)).head? = some d ∧ (isLabelStart d = true ↔ c.isDigit = false) := by
  by_cases hsigma : c = 'Σ' ∧ rest = []
  · obtain ⟨rfl, rfl⟩ := hsigma
    exact ⟨'ς', rfl, by decide⟩
  · obtain ⟨d, hd, hstart⟩ := head?_of_form (lowerChar_ne_nil c) (fun _ => of_mem_lowerChar)
      (fun h => (caseForms_of_isDigit h).2) hc
    refine ⟨d, ?_, hstart⟩
    rw [lowerWord, List.head?_append_of_ne_nil _ (lowerChar_ne_nil c), hd]
    exact fun hc hrest => hsigma ⟨hc, hrest⟩

/-- The names of fields are labels unless the first letter or number is missing or a digit. -/
theorem isLabel_camel_iff {name : String} :
    isLabel (camel name) = true ↔ ∃ c ∈ initial? name, c.isDigit = false := by
  rw [isLabel_iff, and_iff_left (isLabelPart_camel name)]
  obtain ⟨hnone, hinitial⟩ | ⟨c, rest, ws, hsome, hinitial⟩ := words_cases name
  · rw [camel, toList_onChars, camelChars, hnone, hinitial]
    simp
  · have hc : isAlphanumeric c = true :=
      isAlphanumeric_of_mem_words _ (hsome ▸ List.mem_cons_self) c List.mem_cons_self
    obtain ⟨d, hd, hstart⟩ := head?_lowerWord hc rest
    have hhead : (camel name).toList.head? = some d := by
      rw [camel, toList_onChars, camelChars, hsome, List.head?_append, hd, Option.some_or]
    simp [hhead, hinitial, hstart]

theorem pascal_cases (name : String) :
    pascal name = "" ∧ initial? name = none ∨
      ∃ c d, initial? name = some c ∧ (pascal name).toList.head? = some d ∧
        (isLabelStart d = true ↔ c.isDigit = false) := by
  obtain ⟨hnone, hinitial⟩ | ⟨c, rest, ws, hsome, hinitial⟩ := words_cases name
  · refine .inl ⟨?_, hinitial⟩
    rw [pascal, onChars, pascalChars, hnone]
    rfl
  · have hc : isAlphanumeric c = true :=
      isAlphanumeric_of_mem_words _ (hsome ▸ List.mem_cons_self) c List.mem_cons_self
    obtain ⟨d, hd, hstart⟩ := head?_capitalize hc rest
    refine .inr ⟨c, d, hinitial, ?_, hstart⟩
    rw [pascal, toList_onChars, pascalChars, hsome, List.flatMap_cons, List.head?_append, hd,
      Option.some_or]

/-- What is put in front of a name decides whether the whole is a label. -/
theorem isLabel_append_pascal {start : String} (h : isLabel start = true) (name : String) :
    isLabel (start ++ pascal name) = true := by
  rw [isLabel_iff] at h ⊢
  obtain ⟨⟨c, hhead, hc⟩, hparts⟩ := h
  refine ⟨⟨c, ?_, hc⟩, ?_⟩
  · rw [String.toList_append, List.head?_append, hhead, Option.some_or]
  · rw [String.toList_append, List.forall_mem_append]
    exact ⟨hparts, isLabelPart_pascal name⟩

/-- With a label behind it, a name in PascalCase is a label unless it begins with a digit. -/
theorem isLabel_pascal_append_iff {name suffix : String} (hsuffix : isLabel suffix = true) :
    isLabel (pascal name ++ suffix) = true ↔ ∀ c ∈ initial? name, c.isDigit = false := by
  obtain ⟨hempty, hinitial⟩ | ⟨c, d, hinitial, hhead, hstart⟩ := pascal_cases name
  · rw [hempty, String.empty_append, hinitial]
    exact iff_of_true hsuffix nofun
  · have hparts : ∀ e ∈ (pascal name ++ suffix).toList, isLabelPart e = true := by
      rw [String.toList_append, List.forall_mem_append]
      exact ⟨isLabelPart_pascal name, (isLabel_iff.1 hsuffix).2⟩
    rw [isLabel_iff, and_iff_left hparts, String.toList_append, List.head?_append, hhead]
    simp [hinitial, hstart]

theorem isLabel_pascal_iff {name : String} (hne : pascal name ≠ "") :
    isLabel (pascal name) = true ↔ ∀ c ∈ initial? name, c.isDigit = false := by
  obtain ⟨hempty, -⟩ | ⟨c, d, hinitial, hhead, hstart⟩ := pascal_cases name
  · exact absurd hempty hne
  · rw [isLabel_iff, and_iff_left (isLabelPart_pascal name), hhead]
    simp [hinitial, hstart]

end TableClasses.Naming
