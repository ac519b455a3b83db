/-!
# Lines of a text

A line ends at a line feed, and a carriage return just before the line feed belongs to the ending.
A carriage return elsewhere is part of its line, and an ending at the very end of the text begins
no further line.
-/

namespace TableClasses.Text

/-- The lines without their endings. -/
def lines : List Char → List (List Char)
  | [] => []
  | '\n' :: rest => [] :: lines rest
  | '\r' :: '\n' :: rest => [] :: lines rest
  | c :: rest =>
    match lines rest with
    | [] => [[c]]
    | l :: ls => (c :: l) :: ls

/-- A character that is no part of an ending belongs to the first line. -/
theorem lines_cons {c : Char} {rest : List Char} (hc : c ≠ '\n')
    (hr : c = '\r' → rest.head? ≠ some '\n') :
    lines (c :: rest) =
      match lines rest with
      | [] => [[c]]
      | l :: ls => (c :: l) :: ls := by
  rw [lines]
  · exact hc
  · rintro rest' rfl rfl
    exact hr rfl rfl

theorem lines_ne_nil {s : List Char} (h : s ≠ []) : lines s ≠ [] := by
  fun_cases lines s <;> simp_all

/-- A carriage return before a line feed does not count. -/
theorem lines_return {s : List Char} (h : s.head? = some '\n') : lines ('\r' :: s) = lines s := by
  obtain ⟨rest, rfl⟩ := List.head?_eq_some_iff.1 h
  rfl

/-- A line feed ends what is before it, whatever comes after it. -/
theorem lines_append_cons_feed (s t : List Char) :
    lines (s ++ '\n' :: t) = lines (s ++ ['\n']) ++ lines t := by
  induction s with
  | nil => rfl
  | cons c s ih =>
    have hhead : (s ++ '\n' :: t).head? = (s ++ ['\n']).head? := by cases s <;> rfl
    rw [List.cons_append, List.cons_append]
    by_cases hfeed : c = '\n'
    · rw [hfeed, lines, lines, ih, List.cons_append]
    · by_cases hreturn : c = '\r' ∧ (s ++ ['\n']).head? = some '\n'
      · rw [hreturn.1, lines_return (hhead.trans hreturn.2), lines_return hreturn.2, ih]
      · rw [not_and] at hreturn
        rw [lines_cons hfeed (fun hc => hhead ▸ hreturn hc), lines_cons hfeed hreturn, ih]
        cases hlines : lines (s ++ ['\n']) with
        | nil => exact absurd hlines (lines_ne_nil (by simp))
        | cons l ls => rfl

/-- A text without line feeds is a line. -/
theorem lines_of_not_mem {s : List Char} (h : '\n' ∉ s) (hs : s ≠ []) : lines s = [s] := by
  induction s with
  | nil => exact absurd rfl hs
  | cons c rest ih =>
    rw [List.mem_cons, not_or] at h
    have hhead : rest.head? ≠ some '\n' := fun he => h.2 (List.mem_of_head? he)
    rw [lines_cons (Ne.symm h.1) fun _ => hhead]
    cases rest with
    | nil => rfl
    | cons d ds => rw [ih h.2 (by simp)]

/-- A line ends at the line feed behind it. -/
theorem lines_append_feed {s : List Char} (h : '\n' ∉ s) (hr : s.getLast? ≠ some '\r')
    (rest : List Char) : lines (s ++ '\n' :: rest) = s :: lines rest := by
  induction s with
  | nil => rfl
  | cons c s ih =>
    rw [List.mem_cons, not_or] at h
    cases s with
    | nil =>
      have hreturn : c ≠ '\r' := by simpa using hr
      rw [List.singleton_append, lines_cons (Ne.symm h.1) fun he => absurd he hreturn]
      rfl
    | cons d ds =>
      have hd : d ≠ '\n' := fun he => h.2 (he ▸ List.mem_cons_self)
      rw [List.cons_append, lines_cons (Ne.symm h.1) fun _ => by simpa using hd,
        ih h.2 (by simpa using hr)]

/-- Lines that are put one after the other are read one after the other. -/
theorem lines_flatMap {ls : List (List Char)} (h : ∀ l ∈ ls, '\n' ∉ l ∧ l.getLast? ≠ some '\r')
    (rest : List Char) : lines ((ls.flatMap (· ++ ['\n'])) ++ rest) = ls ++ lines rest := by
  induction ls with
  | nil => rfl
  | cons l ls ih =>
    rw [List.forall_mem_cons] at h
    rw [List.flatMap_cons, List.append_assoc, List.append_assoc, List.singleton_append,
      lines_append_feed h.1.1 h.1.2, ih h.2, List.cons_append]

/-- The lines of a string without their endings. -/
def lineTexts (s : String) : List String := (lines s.toList).map String.ofList

end TableClasses.Text
