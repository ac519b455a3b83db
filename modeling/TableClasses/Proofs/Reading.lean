import TableClasses.Proofs.Readers

/-!
# Reading values from parts

Values, items and entries are read from parts of a text with fuel for each of its characters
(`parts_read`): in front of each reader stand others that take a part themselves, so the fuel that
is left suffices for the rest. A text can thus be cut down to what its value was read from, and
blanks around it do not matter.
-/

namespace TableClasses.Json

open TableClasses.Text

variable {α : Type}

/-! ## Spaces -/

theorem isBlank_of_isSpace {c : Char} (h : isSpace c = true) : isBlank c = true := by
  simp only [isSpace, Bool.or_eq_true, beq_iff_eq] at h
  obtain ((rfl | rfl) | rfl) | rfl := h <;> decide

theorem not_isSpace_of_plain {c : Char} (h : Plain c) : isSpace c = false := by
  by_contra hc
  rw [Bool.not_eq_false] at hc
  exact absurd (isBlank_of_isSpace hc) (by rw [h]; decide)

theorem skipSpaces_append {sp : List Char} (hsp : ∀ c ∈ sp, isSpace c = true) (t : List Char) :
    skipSpaces (sp ++ t) = skipSpaces t :=
  List.dropWhile_append_of_pos hsp

theorem skipSpaces_cons {c : Char} (hc : isSpace c = false) (t : List Char) :
    skipSpaces (c :: t) = c :: t :=
  List.dropWhile_cons_of_neg (by simp [hc])

theorem skipSpaces_idem (s : List Char) : skipSpaces (skipSpaces s) = skipSpaces s :=
  trimStart_trimStart isSpace s

theorem exists_spaces (s : List Char) :
    ∃ sp, (∀ c ∈ sp, isSpace c = true) ∧ s = sp ++ skipSpaces s :=
  ⟨_, fun _ => List.mem_takeWhile_imp, (List.takeWhile_append_dropWhile ..).symm⟩

/-- Spaces before a character that is none are skipped, whatever follows it. -/
theorem exists_skip {s t : List Char} {c : Char} (h : skipSpaces s = c :: t) :
    ∃ sp, s = sp ++ c :: t ∧ ∀ x, skipSpaces (sp ++ c :: x) = c :: x := by
  obtain ⟨sp, hsp, hs⟩ := exists_spaces s
  refine ⟨sp, by rw [hs, h], fun x => ?_⟩
  rw [skipSpaces_append hsp, skipSpaces_cons (not_of_head_trimStart isSpace h)]

namespace Reader

/-- Takes this character, and spaces before it. -/
def expect (c : Char) : Reader Unit := fun s =>
  match skipSpaces s with
  | d :: t => if d = c then some ((), t) else none
  | [] => none

/-- Goes on after a comma or ends at the closing character. -/
def more (close : Char) (read : Reader (List α)) : Reader (List α) := fun s =>
  match skipSpaces s with
  | d :: t => if d = close then some ([], t) else if d = ',' then read t else none
  | [] => none

/-- Ends at the closing character, or else reads up to it. -/
def enclosed (close : Char) (read : Reader (List α)) : Reader (List α) := fun s =>
  match skipSpaces s with
  | d :: t => if d = close then some ([], t) else read (d :: t)
  | [] => read []

/-- Takes this text for this value. -/
def word (w : List Char) (v : Json) : Reader Json := fun s =>
  (dropPrefix? w s).map fun t => (v, t)

end Reader

theorem expect_of_skip {s t : List Char} {c : Char} (h : skipSpaces s = c :: t) :
    Reader.expect c s = some ((), t) := by
  rw [Reader.expect, h]
  exact if_pos rfl

theorem expect_eq_none {s : List Char} {c : Char} (h : ∀ t, skipSpaces s = c :: t → False) :
    Reader.expect c s = none := by
  unfold Reader.expect
  split
  · next d t hskip => exact if_neg fun hd : d = c => h t (hd ▸ hskip)
  · rfl

theorem local_expect {c : Char} (hc : Plain c) : Local Firm (Reader.expect c) := by
  intro s a rest h
  by_cases hskip : ∃ t, skipSpaces s = c :: t
  · obtain ⟨t, hskip⟩ := hskip
    rw [expect_of_skip hskip] at h
    obtain ⟨rfl, rfl⟩ := Prod.mk.inj (Option.some.inj h)
    obtain ⟨sp, rfl, hsp⟩ := exists_skip hskip
    refine ⟨sp ++ [c], by simp, ⟨sp, c, rfl, hc⟩, fun x _ => ?_⟩
    rw [List.append_assoc]
    exact expect_of_skip (hsp x)
  · rw [expect_eq_none fun t ht => hskip ⟨t, ht⟩] at h
    cases h

section
variable {close : Char} {read : Reader (List α)} {s t : List Char}

theorem more_close (h : skipSpaces s = close :: t) : Reader.more close read s = some ([], t) := by
  rw [Reader.more, h]
  exact if_pos rfl

theorem more_comma (hne : ',' ≠ close) (h : skipSpaces s = ',' :: t) :
    Reader.more close read s = read t := by
  rw [Reader.more, h]
  exact (if_neg hne).trans (if_pos rfl)

/-- Either the closing character comes, or a comma and more. -/
theorem more_cases {x : List α × List Char} (h : Reader.more close read s = some x) :
    (∃ t, skipSpaces s = close :: t ∧ x = ([], t)) ∨
      ',' ≠ close ∧ ∃ t, skipSpaces s = ',' :: t ∧ read t = some x := by
  unfold Reader.more at h
  split at h
  · next d t hskip =>
    split at h
    · next hd => exact .inl ⟨t, hd ▸ hskip, (Option.some.inj h).symm⟩
    · next hd =>
      split at h
      · next hcomma => exact .inr ⟨hcomma ▸ hd, t, hcomma ▸ hskip, h⟩
      · cases h
  · cases h

end

theorem Parts.more {close : Char} (hclose : Plain close) {fuel : Nat}
    {read : Nat → Reader (List α)} (hread : Parts read fuel) :
    Parts (fun n => Reader.more close (read n)) fuel := by
  intro s a rest h
  obtain ⟨t, hskip, he⟩ | ⟨hne, t, hskip, ht⟩ := more_cases h
  · obtain ⟨rfl, rfl⟩ := Prod.mk.inj he
    obtain ⟨sp, rfl, hsp⟩ := exists_skip hskip
    refine ⟨sp ++ [close], by simp, ⟨sp, close, rfl, hclose⟩, fun n _ x _ => ?_⟩
    rw [List.append_assoc]
    exact more_close (hsp x)
  · obtain ⟨sp, rfl, hsp⟩ := exists_skip hskip
    obtain ⟨p, rfl, hp, hpart⟩ := hread ht
    refine ⟨sp ++ ',' :: p, by simp, (hp.append [',']).append sp, fun n hn x hx => ?_⟩
    have hlength : p.length ≤ n := by
      simp only [List.length_append, List.length_cons] at hn
      omega
    rw [List.append_assoc]
    exact (more_comma hne (hsp _)).trans (hpart n hlength x hx)

theorem enclosed_empty {close : Char} {read : Reader (List α)} {s t : List Char}
    (h : skipSpaces s = close :: t) : Reader.enclosed close read s = some ([], t) := by
  rw [Reader.enclosed, h]
  exact if_pos rfl

theorem enclosed_full {close : Char} {read : Reader (List α)} {s : List Char}
    (h : ∀ t, skipSpaces s = close :: t → False) :
    Reader.enclosed close read s = read (skipSpaces s) := by
  unfold Reader.enclosed
  split
  · next d t hskip =>
    rw [hskip]
    exact if_neg fun hd : d = close => h t (hd ▸ hskip)
  · next hskip => rw [hskip]

theorem Parts.enclosed {close : Char} (hclose : Plain close) {fuel : Nat}
    {read : Nat → Reader (List α)} (hread : Parts read fuel) :
    Parts (fun n => Reader.enclosed close (read n)) fuel := by
  intro s a rest h
  simp only [] at h
  by_cases hskip : ∃ t, skipSpaces s = close :: t
  · obtain ⟨t, hskip⟩ := hskip
    rw [enclosed_empty hskip] at h
    obtain ⟨rfl, rfl⟩ := Prod.mk.inj (Option.some.inj h)
    obtain ⟨sp, rfl, hsp⟩ := exists_skip hskip
    refine ⟨sp ++ [close], by simp, ⟨sp, close, rfl, hclose⟩, fun n _ x _ => ?_⟩
    rw [List.append_assoc]
    exact enclosed_empty (hsp x)
  · rw [enclosed_full fun t ht => hskip ⟨t, ht⟩] at h
    obtain ⟨p, hp, hfirm, hpart⟩ := hread h
    cases p with
    | nil => exact absurd hfirm.length_pos (lt_irrefl 0)
    | cons c p =>
      obtain ⟨sp, rfl, hsp⟩ := exists_skip hp
      refine ⟨sp ++ c :: p, by simp, hfirm.append sp, fun n hn x hx => ?_⟩
      have hlength : (c :: p).length ≤ n := by
        rw [List.length_append] at hn
        omega
      have hfull : ∀ t, skipSpaces (sp ++ c :: (p ++ x)) = close :: t → False := by
        intro t ht
        rw [hsp] at ht
        exact hskip ⟨_, by rw [hsp, (List.cons.inj ht).1]⟩
      have hread := hpart n hlength x hx
      rw [List.append_assoc]
      simp only []
      rw [List.cons_append, enclosed_full hfull, hsp]
      exact hread

theorem local_word {w : List Char} (hw : Firm w) (v : Json) : Local Firm (Reader.word w v) := by
  intro s a rest h
  obtain ⟨t, ht, he⟩ := Option.map_eq_some_iff.1 h
  obtain ⟨rfl, rfl⟩ := Prod.mk.inj he
  refine ⟨w, dropPrefix?_eq_some_iff.1 ht, hw, fun x _ => ?_⟩
  rw [Reader.word, dropPrefix?_eq_some_iff.2 rfl]
  rfl

/-! ## Values -/

/-- How a value goes on from its first character. -/
theorem readValue_succ (fuel depth : Nat) (s : List Char) :
    readValue (fuel + 1) depth s =
      match skipSpaces s with
      | 'n' :: t => (Text.dropPrefix? ['u', 'l', 'l'] t).map fun t => (null, t)
      | 't' :: t => (Text.dropPrefix? ['r', 'u', 'e'] t).map fun t => (bool true, t)
      | 'f' :: t => (Text.dropPrefix? ['a', 'l', 's', 'e'] t).map fun t => (bool false, t)
      | '"' :: t => (readString t).map fun (cs, t) => (string (String.ofList cs), t)
      | '[' :: t =>
        match depth with
        | 0 => none
        | depth + 1 =>
          match skipSpaces t with
          | ']' :: t => some (array [], t)
          | t => (readItems fuel depth t).map fun (vs, t) => (array vs, t)
      | '\x7b' :: t =>
        match depth with
        | 0 => none
        | depth + 1 =>
          match skipSpaces t with
          | '\x7d' :: t => some (object [], t)
          | t => (readEntries fuel depth t).map fun (es, t) => (object (Entries.ofList es), t)
      | t => (readNumber t).map fun (n, t) => (number n, t) :=
  rfl

theorem readItems_succ (n depth : Nat) :
    readItems (n + 1) depth =
      Reader.next (readValue n depth) fun v =>
        (Reader.more ']' (readItems n depth)).map (v :: ·) := by
  funext s
  rw [readItems]
  refine congrArg (Option.bind _) (funext fun x => ?_)
  obtain ⟨v, u⟩ := x
  simp only [Reader.map, Reader.more]
  cases skipSpaces u with
  | nil => rfl
  | cons c t => split <;> simp_all

theorem readEntries_succ (n depth : Nat) :
    readEntries (n + 1) depth =
      (Reader.expect '"').next fun _ => Reader.next readString fun key =>
        (Reader.expect ':').next fun _ => Reader.next (readValue n depth) fun v =>
          (Reader.more '\x7d' (readEntries n depth)).map ((String.ofList key, v) :: ·) := by
  funext s
  rw [readEntries, Reader.next]
  split
  · next t hquote =>
    rw [expect_of_skip hquote]
    refine congrArg (Option.bind _) (funext fun x => ?_)
    obtain ⟨key, u⟩ := x
    simp only [Reader.next]
    split
    · next w hcolon =>
      rw [expect_of_skip hcolon]
      refine congrArg (Option.bind _) (funext fun x => ?_)
      obtain ⟨v, x⟩ := x
      simp only [Reader.map, Reader.more]
      cases skipSpaces x with
      | nil => rfl
      | cons c t => split <;> simp_all
    · next hcolon =>
      rw [expect_eq_none hcolon]
      rfl
  · next hquote =>
    rw [expect_eq_none hquote]
    rfl

/-- The value is read from the front of the text, with fuel for each character of the part. -/
def ValuePart (depth : Nat) (v : Json) (s rest : List Char) : Prop :=
  ∃ p, s = p ++ rest ∧ Firm p ∧ ∀ n, p.length ≤ n → Takes (readValue n depth) p v rest

/-- A value whose first character says how to go on. -/
theorem valuePart_of_lead {c : Char} {depth fuel : Nat} {read : Nat → Reader Json}
    (hlead : ∀ n t, readValue (n + 1) depth (c :: t) = read n t) (hread : Parts read fuel)
    {t rest : List Char} {v : Json} (h : readValue (fuel + 1) depth (c :: t) = some (v, rest)) :
    ValuePart depth v (c :: t) rest := by
  rw [hlead] at h
  obtain ⟨p, rfl, hp, hpart⟩ := hread h
  refine ⟨c :: p, rfl, hp.append [c], fun n hn x hx => ?_⟩
  obtain ⟨n, rfl⟩ : ∃ k, n = k + 1 := ⟨n - 1, by rw [List.length_cons] at hn; omega⟩
  rw [List.cons_append, hlead]
  exact hpart n (Nat.le_of_succ_le_succ hn) x hx

theorem readNumber_head {c : Char} {t : List Char} {x : Number × List Char}
    (h : readNumber (c :: t) = some x) : c = '-' ∨ c.isDigit = true := by
  by_contra hc
  obtain ⟨hminus, hdigit⟩ := not_or.1 hc
  rw [readNumber_eq] at h
  unfold Reader.next Reader.minus at h
  unfold Reader.next at h
  rw [after_of_not_head (by simpa using hminus)] at h
  simp only [Reader.give, Option.bind_some, Reader.digits, List.takeWhile_cons_of_neg hdigit] at h
  cases h

theorem readValue_number {c : Char} (hc : c = '-' ∨ c.isDigit = true) (n depth : Nat)
    (t : List Char) :
    readValue (n + 1) depth (c :: t) = Reader.map number readNumber (c :: t) := by
  have hplain : isSpace c = false := by
    obtain rfl | hc := hc
    · decide
    · exact not_isSpace_of_plain (plain_of_isDigit hc)
  rw [readValue_succ, skipSpaces_cons hplain]
  unfold Reader.map
  split <;> simp_all

theorem valuePart_number {depth : Nat} {s rest : List Char} {v : Json}
    (h : Reader.map number readNumber s = some (v, rest)) : ValuePart depth v s rest := by
  obtain ⟨⟨i, u⟩, hi, he⟩ := Option.map_eq_some_iff.1 h
  obtain ⟨rfl, rfl⟩ := Prod.mk.inj he
  obtain ⟨p, rfl, hp, htakes⟩ := local_readNumber hi
  cases p with
  | nil => cases htakes [] List.nil_prefix
  | cons c p =>
    refine ⟨c :: p, rfl, hp.firm (by simp), fun n hn x hx => ?_⟩
    obtain ⟨n, rfl⟩ : ∃ k, n = k + 1 := ⟨n - 1, by rw [List.length_cons] at hn; omega⟩
    rw [List.cons_append, readValue_number (readNumber_head hi), Reader.map, ← List.cons_append,
      htakes x hx]
    rfl

theorem readValue_array (n depth : Nat) (t : List Char) :
    readValue (n + 1) (depth + 1) ('[' :: t)
      = (Reader.enclosed ']' (readItems n depth)).map array t := by
  rw [readValue_succ, skipSpaces_cons (by decide)]
  simp only [Reader.map, Reader.enclosed]
  cases skipSpaces t with
  | nil => rfl
  | cons c u => split <;> simp_all

theorem readValue_object (n depth : Nat) (t : List Char) :
    readValue (n + 1) (depth + 1) ('\x7b' :: t)
      = (Reader.enclosed '\x7d' (readEntries n depth)).map
          (fun es => object (Entries.ofList es)) t := by
  rw [readValue_succ, skipSpaces_cons (by decide)]
  simp only [Reader.map, Reader.enclosed]
  cases skipSpaces t with
  | nil => rfl
  | cons c u => split <;> simp_all [Entries.ofList]

theorem valuePart_succ {fuel : Nat} (hitems : ∀ depth, Parts (fun n => readItems n depth) fuel)
    (hentries : ∀ depth, Parts (fun n => readEntries n depth) fuel) {depth : Nat}
    {s rest : List Char} {v : Json} (hskip : skipSpaces s = s)
    (h : readValue (fuel + 1) depth s = some (v, rest)) : ValuePart depth v s rest := by
  have hs := h
  rw [readValue_succ, hskip] at hs
  split at hs
  · refine valuePart_of_lead (fun n t => ?_)
      ((local_word ⟨['u', 'l'], 'l', rfl, by decide⟩ null).parts fuel) h
    rw [readValue_succ, skipSpaces_cons (by decide)]
    rfl
  · refine valuePart_of_lead (fun n t => ?_)
      ((local_word ⟨['r', 'u'], 'e', rfl, by decide⟩ (bool true)).parts fuel) h
    rw [readValue_succ, skipSpaces_cons (by decide)]
    rfl
  · refine valuePart_of_lead (fun n t => ?_)
      ((local_word ⟨['a', 'l', 's'], 'e', rfl, by decide⟩ (bool false)).parts fuel) h
    rw [readValue_succ, skipSpaces_cons (by decide)]
    rfl
  · refine valuePart_of_lead (fun n t => ?_)
      ((local_readString.parts fuel).map fun cs => string (String.ofList cs)) h
    rw [readValue_succ, skipSpaces_cons (by decide)]
    rfl
  · cases depth with
    | zero => cases hs
    | succ depth =>
      exact valuePart_of_lead (fun n t => readValue_array n depth t)
        (((hitems depth).enclosed (by decide)).map array) h
  · cases depth with
    | zero => cases hs
    | succ depth =>
      exact valuePart_of_lead (fun n t => readValue_object n depth t)
        (((hentries depth).enclosed (by decide)).map fun es => object (Entries.ofList es)) h
  · exact valuePart_number hs

theorem readValue_append {sp : List Char} (hsp : ∀ c ∈ sp, isSpace c = true) (n depth : Nat)
    (s : List Char) : readValue n depth (sp ++ s) = readValue n depth s := by
  cases n with
  | zero => rfl
  | succ n => rw [readValue_succ, readValue_succ, skipSpaces_append hsp]

theorem parts_readValue_succ {fuel : Nat}
    (hitems : ∀ depth, Parts (fun n => readItems n depth) fuel)
    (hentries : ∀ depth, Parts (fun n => readEntries n depth) fuel) (depth : Nat) :
    Parts (fun n => readValue n depth) (fuel + 1) := by
  intro s v rest h
  obtain ⟨sp, hsp, hs⟩ := exists_spaces s
  rw [hs] at h ⊢
  simp only [readValue_append hsp] at h
  obtain ⟨p, hp, hfirm, hpart⟩ := valuePart_succ hitems hentries (skipSpaces_idem s) h
  refine ⟨sp ++ p, by rw [hp, List.append_assoc], hfirm.append sp, fun n hn x hx => ?_⟩
  rw [List.length_append] at hn
  rw [List.append_assoc]
  exact (readValue_append hsp n depth _).trans (hpart n (by omega) x hx)

/-- Values, items and entries are read from parts, by induction on the fuel. -/
theorem parts_read (fuel : Nat) :
    (∀ depth, Parts (fun n => readValue n depth) fuel) ∧
      (∀ depth, Parts (fun n => readItems n depth) fuel) ∧
      ∀ depth, Parts (fun n => readEntries n depth) fuel := by
  induction fuel with
  | zero =>
    refine ⟨fun depth s a rest h => ?_, fun depth s a rest h => ?_, fun depth s a rest h => ?_⟩
    all_goals cases h
  | succ fuel ih =>
    obtain ⟨hvalue, hitems, hentries⟩ := ih
    refine ⟨parts_readValue_succ hitems hentries, fun depth => ?_, fun depth => ?_⟩
    · exact Parts.succ (fun n => readItems_succ n depth) (hvalue depth) fun v =>
        ((hitems depth).more (by decide)).map _
    · exact Parts.succ (fun n => readEntries_succ n depth)
        ((local_expect (by decide)).parts fuel) fun _ =>
        (local_readString.parts fuel).next fun key =>
        ((local_expect (by decide)).parts fuel).next fun _ =>
        (hvalue depth).next fun v => ((hentries depth).more (by decide)).map _

/-! ## Texts -/

theorem readValue_head {fuel depth : Nat} {c : Char} {t : List Char} {x : Json × List Char}
    (hc : isSpace c = false) (h : readValue fuel depth (c :: t) = some x) : Plain c := by
  cases fuel with
  | zero => cases h
  | succ fuel =>
    rw [readValue_succ, skipSpaces_cons hc] at h
    split at h
    case h_7 =>
      obtain ⟨y, hy, -⟩ := Option.map_eq_some_iff.1 h
      obtain rfl | hdigit := readNumber_head hy
      · decide
      · exact plain_of_isDigit hdigit
    all_goals
      next hlead =>
      obtain ⟨rfl, -⟩ := List.cons.inj hlead
      decide

theorem parse?_eq_some_iff {text : String} {v : Json} :
    parse? text = some v ↔ ∃ rest, skipSpaces rest = [] ∧
      readValue (2 * text.toList.length + 2) maxDepth text.toList = some (v, rest) := by
  unfold parse?
  simp only []
  split
  · next w rest hread =>
    simp only [hread, Option.some.injEq, Prod.mk.injEq, Option.ite_none_right_eq_some,
      List.isEmpty_iff]
    exact ⟨fun ⟨hr, hv⟩ => ⟨rest, hr, hv, rfl⟩, fun ⟨_, hr, hv, he⟩ => ⟨he ▸ hr, hv⟩⟩
  · next hread => simp [hread]

theorem trim_around {a p b : List Char} (ha : ∀ c ∈ a, isBlank c = true) {c : Char} (hc : Plain c)
    (hp : Firm (c :: p)) (hb : ∀ c ∈ b, isBlank c = true) :
    trim isBlank (a ++ c :: p ++ b) = c :: p := by
  obtain ⟨q, d, hq, hd⟩ := hp
  have hstart : trimStart isBlank (c :: p) = c :: p :=
    List.dropWhile_cons_of_neg (by rw [hc]; decide)
  have hend : trimEnd isBlank (c :: p) = c :: p := by
    rw [hq, trimEnd, List.reverse_concat, List.dropWhile_cons_of_neg (by rw [hd]; decide),
      List.reverse_cons, List.reverse_reverse]
  rw [trim_between ha (List.cons_ne_nil c p) hstart hend, trimEnd_of_all hb, List.append_nil]

/-- Blanks around a text that holds a document do not matter. -/
theorem parse?_trimBlanks {text : String} {v : Json} (h : parse? text = some v) :
    parse? (trimBlanks text) = some v := by
  obtain ⟨rest, hrest, hread⟩ := parse?_eq_some_iff.1 h
  obtain ⟨sp, hsp, hs⟩ := exists_spaces text.toList
  rw [hs, readValue_append hsp] at hread
  obtain ⟨p, hp, hfirm, hpart⟩ := (parts_read _).1 maxDepth hread
  cases p with
  | nil => exact absurd hfirm.length_pos (lt_irrefl 0)
  | cons c p =>
    have hc : isSpace c = false := not_of_head_trimStart isSpace hp
    have hplain : Plain c := by
      rw [hp] at hread
      exact readValue_head hc hread
    have hrest : ∀ d ∈ rest, isSpace d = true := List.dropWhile_eq_nil_iff.1 hrest
    have htrim : trim isBlank text.toList = c :: p := by
      rw [hs, hp, ← List.append_assoc]
      exact trim_around (fun d hd => isBlank_of_isSpace (hsp d hd)) hplain hfirm
        fun d hd => isBlank_of_isSpace (hrest d hd)
    have hwhole := hpart (2 * (c :: p).length + 2) (by omega) [] List.nil_prefix
    refine parse?_eq_some_iff.2 ⟨[], rfl, ?_⟩
    rw [trimBlanks, toList_onChars, htrim, ← hwhole, List.append_nil]

end TableClasses.Json
