import TableClasses.Code.Printer
import TableClasses.Proofs.Quotations

/-!
# Strings in bodies that are cut into lines

A body in one piece is cut into lines before it is printed, also inside its strings. `laidOut` is
what is printed of a body, and `continued` what is printed of its rest from the middle of a line on.
A quote is no part of a line ending, so what is before it and what is after it are printed by
themselves: a string becomes what is `carried` between its quotes, and stays as it is if it has no
line feed.
-/

namespace TableClasses.Code

open TableClasses.Text

/-! ## What is printed of a text -/

/-- A line of a body as it is printed. -/
def indentLine (l : List Char) : List Char :=
  if l.all isBlank then ['\n'] else '\t' :: '\t' :: (l ++ ['\n'])

/-- The lines of a body as they are printed. -/
def laidOut (s : List Char) : List Char := (lines s).flatMap indentLine

/-- What is printed of a text whose first line has begun already. -/
def continued (s : List Char) : List Char :=
  match lines s with
  | [] => ['\n']
  | l :: ls => l ++ '\n' :: ls.flatMap indentLine

def isFeed (c : Char) : Bool := c == '\n'

/-- What is printed of a body up to the middle of a line. -/
def lead (s : List Char) : List Char :=
  match splitLast? isFeed s with
  | some (q, r) => laidOut (q ++ ['\n']) ++ '\t' :: '\t' :: r
  | none => '\t' :: '\t' :: s

/-- What is printed between the middle of a line and the middle of the same or another. -/
def carried (s : List Char) : List Char :=
  match splitLast? isFeed s with
  | some (q, r) => continued (q ++ ['\n']) ++ '\t' :: '\t' :: r
  | none => s

theorem toList_lineText (l : List Char) :
    (Method.lineText (String.ofList l)).toList = indentLine l := by
  unfold Method.lineText indentLine isAllBlank
  rw [String.toList_ofList]
  split <;> simp

theorem toList_join_lineText (s : String) :
    (String.join ((lineTexts s).map Method.lineText)).toList = laidOut s.toList := by
  rw [String.toList_join, lineTexts, List.flatMap_map, List.flatMap_map, laidOut]
  exact congrArg (List.flatMap · (lines s.toList)) (funext toList_lineText)

/-! ## Up to a quote and behind it -/

theorem lead_append (s : List Char) {t : List Char} (h : '\n' ∉ t) :
    lead (s ++ t) = lead s ++ t := by
  unfold lead
  rw [splitLast?_append_of_free (p := isFeed) s (free_of_not_mem h)]
  cases splitLast? isFeed s <;> simp

theorem carried_append (s : List Char) {t : List Char} (h : '\n' ∉ t) :
    carried (s ++ t) = carried s ++ t := by
  unfold carried
  rw [splitLast?_append_of_free (p := isFeed) s (free_of_not_mem h)]
  cases splitLast? isFeed s <;> simp

/-- The line that has begun goes on to a quote, if no line feed is before it. -/
theorem lines_append_quote {s : List Char} (h : '\n' ∉ s) (t : List Char) :
    lines (s ++ '\'' :: t) =
      match lines t with
      | [] => [s ++ ['\'']]
      | l :: ls => (s ++ '\'' :: l) :: ls := by
  induction s with
  | nil => exact lines_cons (by decide) fun he => absurd he (by decide)
  | cons c s ih =>
    rw [List.mem_cons, not_or] at h
    have hhead : (s ++ '\'' :: t).head? ≠ some '\n' := by
      cases s with
      | nil => simp
      | cons d s =>
        have hd : d ≠ '\n' := fun he => h.2 (he ▸ List.mem_cons_self)
        simpa using hd
    rw [List.cons_append, lines_cons (Ne.symm h.1) fun _ => hhead, ih h.2]
    cases lines t <;> rfl

theorem continued_append_quote {s : List Char} (h : '\n' ∉ s) (t : List Char) :
    continued (s ++ '\'' :: t) = s ++ '\'' :: continued t := by
  unfold continued
  rw [lines_append_quote h]
  cases lines t <;> simp

theorem indentLine_quote (s t : List Char) :
    indentLine (s ++ '\'' :: t) = '\t' :: '\t' :: (s ++ '\'' :: (t ++ ['\n'])) := by
  have hblank : (s ++ '\'' :: t).all isBlank = false := by
    rw [List.all_append, List.all_cons]
    simp [(by decide : isBlank '\'' = false)]
  rw [indentLine, hblank]
  simp

theorem laidOut_append_quote {s : List Char} (h : '\n' ∉ s) (t : List Char) :
    laidOut (s ++ '\'' :: t) = '\t' :: '\t' :: (s ++ '\'' :: continued t) := by
  unfold laidOut continued
  rw [lines_append_quote h]
  cases lines t with
  | nil => simp [indentLine_quote s []]
  | cons l ls => simp [indentLine_quote s l]

theorem laidOut_append_feed (s t : List Char) :
    laidOut (s ++ '\n' :: t) = laidOut (s ++ ['\n']) ++ laidOut t := by
  unfold laidOut
  rw [lines_append_cons_feed, List.flatMap_append]

theorem continued_append_feed (s t : List Char) :
    continued (s ++ '\n' :: t) = continued (s ++ ['\n']) ++ laidOut t := by
  unfold continued laidOut
  rw [lines_append_cons_feed]
  cases hlines : lines (s ++ ['\n']) with
  | nil => exact absurd hlines (lines_ne_nil (by simp))
  | cons l ls => simp

/-- A text is cut at its last line feed, or has none. -/
theorem splitLast?_feed_cases (s : List Char) :
    splitLast? isFeed s = none ∧ '\n' ∉ s ∨
      ∃ q r, splitLast? isFeed s = some (q, r) ∧ s = q ++ '\n' :: r ∧ '\n' ∉ r := by
  cases hs : splitLast? isFeed s with
  | none =>
    refine .inl ⟨rfl, fun hm => ?_⟩
    have := splitLast?_eq_none_iff.1 hs _ hm
    simp [isFeed] at this
  | some p =>
    obtain ⟨c, hc, he, hr⟩ := of_splitLast? hs
    obtain rfl : c = '\n' := beq_iff_eq.1 hc
    refine .inr ⟨p.1, p.2, rfl, he, fun hm => ?_⟩
    have := hr _ hm
    simp [isFeed] at this

/-- Up to a quote and behind it a body is printed by itself. -/
theorem laidOut_quote (s t : List Char) :
    laidOut (s ++ '\'' :: t) = lead s ++ '\'' :: continued t := by
  unfold lead
  obtain ⟨hs, hfree⟩ | ⟨q, r, hs, rfl, hfree⟩ := splitLast?_feed_cases s
  · rw [hs, laidOut_append_quote hfree]
    rfl
  · rw [hs, List.append_assoc, List.cons_append, laidOut_append_feed, laidOut_append_quote hfree]
    simp

theorem continued_quote (s t : List Char) :
    continued (s ++ '\'' :: t) = carried s ++ '\'' :: continued t := by
  unfold carried
  obtain ⟨hs, hfree⟩ | ⟨q, r, hs, rfl, hfree⟩ := splitLast?_feed_cases s
  · rw [hs, continued_append_quote hfree]
  · rw [hs, List.append_assoc, List.cons_append, continued_append_feed,
      laidOut_append_quote hfree]
    simp

theorem continued_append {s : List Char} (hfeed : '\n' ∉ s) (hreturn : '\r' ∉ s) (t : List Char) :
    continued (s ++ t) = s ++ continued t := by
  induction s with
  | nil => rfl
  | cons c s ih =>
    rw [List.mem_cons, not_or] at hfeed hreturn
    have hlines : lines (c :: (s ++ t)) = _ :=
      lines_cons (Ne.symm hfeed.1) fun he => absurd he.symm hreturn.1
    rw [List.cons_append, List.cons_append, ← ih hfeed.2 hreturn.2, continued, hlines, continued]
    cases lines (s ++ t) <;> rfl

/-! ## Strings in the middle of lines -/

theorem isBlank_escape (l : List Char) : (escape l).all isBlank = l.all isBlank := by
  induction l with
  | nil => rfl
  | cons c l ih =>
    rw [escape]
    split
    · next hc =>
      have hblank : isBlank c = false := by rcases hc with rfl | rfl <;> decide
      simp [hblank]
    · simp [ih]

theorem mem_escape_iff {c : Char} (hslash : c ≠ '\\') {l : List Char} : c ∈ escape l ↔ c ∈ l := by
  induction l with
  | nil => rfl
  | cons d l ih =>
    rw [escape]
    split <;> simp [ih, hslash]

theorem head?_escape_eq_feed_iff (s : List Char) :
    (escape s).head? = some '\n' ↔ s.head? = some '\n' := by
  cases s with
  | nil => rfl
  | cons c s =>
    by_cases hc : c = '\\' ∨ c = '\''
    · rw [escape_special hc]
      rcases hc with rfl | rfl <;> simp
    · rw [escape_plain hc]
      rfl

/-- Escaping adds nothing that ends a line. -/
theorem lines_escape (s : List Char) : lines (escape s) = (lines s).map escape := by
  induction s with
  | nil => rfl
  | cons c s ih =>
    by_cases hc : c = '\\' ∨ c = '\''
    · have hfeed : c ≠ '\n' := by rcases hc with rfl | rfl <;> decide
      have hreturn : c ≠ '\r' := by rcases hc with rfl | rfl <;> decide
      rw [escape_special hc, lines_cons (by decide) fun he => absurd he (by decide),
        lines_cons hfeed fun he => absurd he hreturn, lines_cons hfeed fun he => absurd he hreturn,
        ih]
      cases lines s <;> simp [escape_special hc]
    · rw [escape_plain hc]
      by_cases hfeed : c = '\n'
      · rw [hfeed, lines, lines, ih]
        rfl
      · by_cases hreturn : c = '\r' ∧ s.head? = some '\n'
        · rw [hreturn.1, lines_return hreturn.2,
            lines_return ((head?_escape_eq_feed_iff s).2 hreturn.2), ih]
        · rw [not_and] at hreturn
          rw [lines_cons hfeed hreturn,
            lines_cons hfeed fun he hm => hreturn he ((head?_escape_eq_feed_iff s).1 hm), ih]
          cases lines s <;> simp [escape_plain hc]

theorem indentLine_escape (l : List Char) : indentLine (escape l) = escape (indentLine l) := by
  unfold indentLine
  rw [isBlank_escape]
  split
  · rfl
  · simp [escape, escape_append]

theorem flatMap_indentLine_escape (ls : List (List Char)) :
    (ls.map escape).flatMap indentLine = escape (ls.flatMap indentLine) := by
  induction ls with
  | nil => rfl
  | cons l ls ih =>
    rw [List.map_cons, List.flatMap_cons, List.flatMap_cons, escape_append, ih, indentLine_escape]

theorem continued_escape (s : List Char) : continued (escape s) = escape (continued s) := by
  unfold continued
  rw [lines_escape]
  cases lines s with
  | nil => rfl
  | cons l ls =>
    simp only [List.map_cons, escape_append, flatMap_indentLine_escape]
    rfl

/-- What is between the quotes is printed as the string is, and then escaped. -/
theorem carried_escape (s : List Char) : carried (escape s) = escape (carried s) := by
  have hmem : ∀ l, '\n' ∉ l → '\n' ∉ escape l := fun l h => mt (mem_escape_iff (by decide)).1 h
  unfold carried
  obtain ⟨hs, hfree⟩ | ⟨q, r, hs, rfl, hfree⟩ := splitLast?_feed_cases s
  · rw [hs, (splitLast?_eq_none_iff (p := isFeed)).2 (free_of_not_mem (hmem s hfree))]
  · have hescape : escape (q ++ '\n' :: r) = escape q ++ '\n' :: escape r := by
      rw [escape_append, escape_plain (by decide)]
    have hfeed : escape q ++ ['\n'] = escape (q ++ ['\n']) := by
      rw [escape_append]
      rfl
    rw [hs, hescape, splitLast?_append_cons (p := isFeed) _ rfl
      (free_of_not_mem (hmem r hfree))]
    dsimp only
    rw [hfeed, continued_escape, escape_append, escape_plain (by decide),
      escape_plain (by decide)]

theorem exists_continued_eq (s : List Char) : ∃ t, continued s = t ++ ['\n'] := by
  unfold continued
  cases lines s with
  | nil => exact ⟨[], rfl⟩
  | cons l ls =>
    obtain rfl | ⟨ls, last, rfl⟩ := ls.eq_nil_or_concat
    · exact ⟨l, rfl⟩
    · have hlast : ∃ t, indentLine last = t ++ ['\n'] := by
        unfold indentLine
        split
        · exact ⟨[], rfl⟩
        · exact ⟨'\t' :: '\t' :: last, rfl⟩
      obtain ⟨t, ht⟩ := hlast
      exact ⟨l ++ '\n' :: (ls.flatMap indentLine ++ t), by simp [ht]⟩

/-- Exactly the strings without line feeds are printed as they are: behind the last line feed of
any other there is an indentation. -/
theorem carried_eq_self_iff (s : List Char) : carried s = s ↔ '\n' ∉ s := by
  unfold carried
  obtain ⟨hs, hfree⟩ | ⟨q, r, hs, rfl, hfree⟩ := splitLast?_feed_cases s
  · simp [hs, hfree]
  · have hne : continued (q ++ ['\n']) ++ '\t' :: '\t' :: r ≠ q ++ '\n' :: r := by
      intro he
      obtain ⟨t, ht⟩ := exists_continued_eq (q ++ ['\n'])
      have htail : '\n' ∉ '\t' :: '\t' :: r := by simp [hfree]
      have hsplit := splitLast?_append_cons t (rfl : isFeed '\n' = true) (free_of_not_mem htail)
      rw [ht, List.append_assoc, List.singleton_append] at he
      rw [he, hs] at hsplit
      simp only [Option.some.injEq, Prod.mk.injEq] at hsplit
      have hlength := congrArg List.length hsplit.2
      simp only [List.length_cons] at hlength
      omega
    simp [hs, hne]

theorem continued_quoted (s string t : List Char) :
    continued (s ++ (quote string ++ t))
      = carried s ++ (quote (carried string) ++ continued t) := by
  have htext : s ++ (quote string ++ t) = s ++ '\'' :: (escape string ++ '\'' :: t) := by
    simp [quote]
  rw [htext, continued_quote, continued_quote, carried_escape]
  simp [quote]

theorem laidOut_quoted (s string t : List Char) :
    laidOut (s ++ (quote string ++ t))
      = lead s ++ (quote (carried string) ++ continued t) := by
  have htext : s ++ (quote string ++ t) = s ++ '\'' :: (escape string ++ '\'' :: t) := by
    simp [quote]
  rw [htext, laidOut_quote, continued_quote, carried_escape]
  simp [quote]

/-! ## Quotations in bodies -/

namespace Quotation

/-- The quotation as it is printed: a body is cut also inside a string. -/
def printed (q : Quotation) : Quotation :=
  if q.cut then { q with string := onChars carried q.string } else q

/-- Whether a quotation goes through the cutting of a body and the code next to it stays. -/
structure Passes (q : Quotation) : Prop where
  cut : q.cut = true
  before : '\n' ∉ q.before.toList
  after : '\n' ∉ q.after.toList ∧ '\r' ∉ q.after.toList

theorem passes {before after : String} (string : String) (hbefore : '\n' ∉ before.toList)
    (hafter : '\n' ∉ after.toList ∧ '\r' ∉ after.toList) :
    Passes { before, string, after, cut := true } := ⟨rfl, hbefore, hafter⟩

theorem Passes.printed {q : Quotation} (h : q.Passes) :
    q.printed = { q with string := onChars carried q.string } := by
  unfold Quotation.printed
  rw [if_pos h.cut]

theorem printed_of_not_cut {q : Quotation} (h : q.cut = false) : q.printed = q := by
  unfold printed
  rw [h]
  rfl

theorem printed_string_eq_iff (q : Quotation) :
    q.printed.string = q.string ↔ (q.cut = true → '\n' ∉ q.string.toList) := by
  unfold printed
  split
  · next h =>
    rw [← String.toList_inj, toList_onChars, carried_eq_self_iff]
    simp [h]
  · next h => simp [h]

end Quotation

namespace Written

variable {qs later : List Quotation} {q : Quotation} {text rest : List Char}

theorem printed_cons (hq : q.Passes) (code : List Char)
    (h : Written later (Code.continued (q.after.toList ++ rest))) :
    Written (q.printed :: later)
      (code ++ q.before.toList ++
        (quote (carried q.string.toList) ++ Code.continued (q.after.toList ++ rest))) := by
  rw [continued_append hq.after.1 hq.after.2] at h ⊢
  have h' := Written.cons (q := { q with string := onChars carried q.string }) code h
  rw [toList_onChars] at h'
  rw [hq.printed]
  exact h'

/-- From the middle of a line on, what is written is printed with each string as it is carried. -/
theorem continued (h : Written qs text) (hqs : ∀ q ∈ qs, q.Passes) :
    Written (qs.map Quotation.printed) (Code.continued text) := by
  induction h with
  | nil text => exact .nil _
  | cons code _ ih =>
    obtain ⟨hq, hlater⟩ := List.forall_mem_cons.1 hqs
    rw [continued_quoted, carried_append code hq.before]
    exact printed_cons hq (carried code) (ih hlater)

/-- What is written in a body is printed with each string as it is carried. -/
theorem laidOut (h : Written qs text) (hqs : ∀ q ∈ qs, q.Passes) :
    Written (qs.map Quotation.printed) (Code.laidOut text) := by
  cases h with
  | nil text => exact .nil _
  | cons code h =>
    obtain ⟨hq, hlater⟩ := List.forall_mem_cons.1 hqs
    rw [laidOut_quoted, lead_append code hq.before]
    exact printed_cons hq (lead code) (h.continued hlater)

end Written

end TableClasses.Code
