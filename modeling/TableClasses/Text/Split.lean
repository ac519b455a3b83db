/-!
# Cutting a text

`pieces` cuts a text at every separator, `splitLast?` at its last one, and `dropPrefix?` takes a
given beginning off. The lemmas put the parts together again. A run at the front of a text is cut off
where it ends.
-/

namespace TableClasses.Text

variable {α : Type}

/-- The pieces between the items that satisfy `p`; there is always at least one. -/
def pieces (p : α → Bool) : List α → List (List α)
  | [] => [[]]
  | c :: rest =>
    match pieces p rest with
    | [] => [[]]
    | l :: ls => if p c then [] :: l :: ls else (c :: l) :: ls

theorem pieces_ne_nil (p : α → Bool) (s : List α) : pieces p s ≠ [] := by
  induction s with
  | nil => simp [pieces]
  | cons c rest ih =>
    unfold pieces
    split
    · simp
    · split <;> simp

/-- The pieces of a string between the occurrences of a character. -/
def splitAt (sep : Char) (s : String) : List String :=
  (pieces (· == sep) s.toList).map String.ofList

/-- What stands before and after the last item that satisfies `p`, if there is one. -/
def splitLast? (p : α → Bool) : List α → Option (List α × List α)
  | [] => none
  | c :: rest =>
    match splitLast? p rest with
    | some (q, s) => some (c :: q, s)
    | none => if p c then some ([], rest) else none

theorem splitLast?_eq_none_iff {p : α → Bool} {s : List α} :
    splitLast? p s = none ↔ ∀ c ∈ s, p c = false := by
  induction s with
  | nil => simp [splitLast?]
  | cons c rest ih =>
    unfold splitLast?
    split
    · next q r hs =>
      have hrest : ¬ ∀ d ∈ rest, p d = false := by rw [← ih, hs]; simp
      simp only [reduceCtorEq, List.mem_cons, false_iff]
      exact fun h => hrest fun d hd => h d (.inr hd)
    · next hs =>
      have hrest := ih.1 hs
      cases hc : p c with
      | true => simp [hc]
      | false => simpa [hc] using hrest

theorem of_splitLast? {p : α → Bool} {s q r : List α} (h : splitLast? p s = some (q, r)) :
    ∃ c, p c = true ∧ s = q ++ c :: r ∧ ∀ d ∈ r, p d = false := by
  induction s generalizing q r with
  | nil => simp [splitLast?] at h
  | cons c rest ih =>
    unfold splitLast? at h
    split at h
    · next q' s' hs =>
      simp only [Option.some.injEq, Prod.mk.injEq] at h
      obtain ⟨rfl, rfl⟩ := h
      obtain ⟨d, hd, hr, hfree⟩ := ih hs
      exact ⟨d, hd, by simp [hr], hfree⟩
    · next hs =>
      split at h
      · next hc =>
        simp only [Option.some.injEq, Prod.mk.injEq] at h
        obtain ⟨rfl, rfl⟩ := h
        exact ⟨c, hc, rfl, splitLast?_eq_none_iff.1 hs⟩
      · simp at h

/-- A list without a character has no separator that is this character. -/
theorem free_of_not_mem {c : Char} {s : List Char} (h : c ∉ s) : ∀ d ∈ s, (d == c) = false := by
  intro d hd
  exact beq_eq_false_iff_ne.2 fun he => h (he ▸ hd)

/-- The last separator of two lists in a row is that of the second, if it has one. -/
theorem splitLast?_append (p : α → Bool) (s t : List α) :
    splitLast? p (s ++ t) =
      match splitLast? p t with
      | some (q, r) => some (s ++ q, r)
      | none => (splitLast? p s).map fun (q, r) => (q, r ++ t) := by
  induction s with
  | nil => cases ht : splitLast? p t <;> simp [splitLast?, ht]
  | cons c s ih =>
    rw [List.cons_append, splitLast?, ih]
    cases splitLast? p t with
    | some _ => rfl
    | none =>
      rw [splitLast?]
      cases splitLast? p s with
      | some _ => rfl
      | none => cases p c <;> rfl

theorem splitLast?_append_of_free {p : α → Bool} (s : List α) {t : List α}
    (h : ∀ c ∈ t, p c = false) :
    splitLast? p (s ++ t) = (splitLast? p s).map fun (q, r) => (q, r ++ t) := by
  rw [splitLast?_append, splitLast?_eq_none_iff.2 h]

theorem splitLast?_append_cons {p : α → Bool} (s : List α) {c : α} {t : List α}
    (hc : p c = true) (ht : ∀ d ∈ t, p d = false) : splitLast? p (s ++ c :: t) = some (s, t) := by
  have hlast : splitLast? p (c :: t) = some ([], t) := by
    rw [splitLast?, splitLast?_eq_none_iff.2 ht, if_pos hc]
  simp only [splitLast?_append, hlast, List.append_nil]

/-- What follows a given beginning, if the list begins with it. -/
def dropPrefix? [DecidableEq α] : List α → List α → Option (List α)
  | [], s => some s
  | c :: cs, d :: ds => if c = d then dropPrefix? cs ds else none
  | _ :: _, [] => none

theorem dropPrefix?_eq_some_iff [DecidableEq α] {beginning s rest : List α} :
    dropPrefix? beginning s = some rest ↔ s = beginning ++ rest := by
  induction beginning generalizing s with
  | nil => simp [dropPrefix?]
  | cons c cs ih =>
    cases s with
    | nil => simp [dropPrefix?]
    | cons d ds =>
      by_cases h : c = d
      · subst h; simp [dropPrefix?, ih]
      · simp [dropPrefix?, h, Ne.symm h]

/-- A run of items at the front ends before the first item that is not of the run. -/
theorem cut_run {p : α → Bool} {run rest : List α} (hrun : ∀ c ∈ run, p c = true)
    (hrest : ∀ c ∈ rest.head?, p c = false) :
    (run ++ rest).takeWhile p = run ∧ (run ++ rest).dropWhile p = rest := by
  rw [List.takeWhile_append_of_pos hrun, List.dropWhile_append_of_pos hrun]
  cases rest with
  | nil => simp
  | cons c rest => simp [hrest c rfl]

/-- The head of a beginning is the head of the whole. -/
theorem mem_head?_of_isBeginning {t s : List α} (h : t <+: s) {c : α} (hc : c ∈ t.head?) :
    c ∈ s.head? := by
  obtain ⟨r, rfl⟩ := h
  cases t with
  | nil => cases hc
  | cons d t => exact hc

end TableClasses.Text
