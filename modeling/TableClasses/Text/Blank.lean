/-!
# Blanks and trimming

`isBlank` is the Unicode property White_Space. Trimming takes a class of characters off the ends of
a text: `trimStart` off the front, `trimEnd` off the back, `trim` off both. The lemmas say what
remains at the ends, that a second trim changes nothing, and what is trimmed off around a text.
-/

namespace TableClasses.Text

/-- The property White_Space. -/
def isBlank (c : Char) : Bool :=
  let n := c.toNat
  decide (9 ≤ n) && decide (n ≤ 13) || n == 0x20 || n == 0x85 || n == 0xA0 || n == 0x1680
    || decide (0x2000 ≤ n) && decide (n ≤ 0x200A) || n == 0x2028 || n == 0x2029 || n == 0x202F
    || n == 0x205F || n == 0x3000

variable {α : Type} (p : α → Bool)

def trimStart (s : List α) : List α := s.dropWhile p

def trimEnd (s : List α) : List α := (s.reverse.dropWhile p).reverse

def trim (s : List α) : List α := trimEnd p (trimStart p s)

@[simp] theorem trimStart_nil : trimStart p [] = [] := rfl

@[simp] theorem trimEnd_nil : trimEnd p [] = [] := rfl

theorem not_of_head_trimStart {s rest : List α} {c : α} (h : trimStart p s = c :: rest) :
    p c = false := by
  have := List.head?_dropWhile_not p s
  unfold trimStart at h
  simpa [h] using this

@[simp] theorem trimStart_trimStart (s : List α) : trimStart p (trimStart p s) = trimStart p s := by
  cases h : trimStart p s with
  | nil => rfl
  | cons c rest => simp [trimStart, not_of_head_trimStart p h]

theorem trimEnd_isBeginning (s : List α) : trimEnd p s <+: s := by
  have := List.reverse_prefix.2 (List.dropWhile_suffix (l := s.reverse) p)
  rwa [List.reverse_reverse] at this

/-- Nothing is left to trim at the front of a trimmed text. -/
@[simp] theorem trimStart_trim (s : List α) : trimStart p (trim p s) = trim p s := by
  cases htrim : trim p s with
  | nil => rfl
  | cons c rest =>
    obtain ⟨u, hu⟩ := trimEnd_isBeginning p (trimStart p s)
    rw [← trim, htrim] at hu
    exact List.dropWhile_cons_of_neg (by rw [not_of_head_trimStart p hu.symm]; decide)

@[simp] theorem trim_trim (s : List α) : trim p (trim p s) = trim p s := by
  have hend : ∀ l : List α, trimEnd p (trimEnd p l) = trimEnd p l := by
    intro l
    unfold trimEnd
    rw [List.reverse_reverse]
    exact congrArg List.reverse (trimStart_trimStart p l.reverse)
  rw [trim, trimStart_trim, trim, hend]

section
variable {p}

theorem trimStart_append {s : List α} (hne : s ≠ []) (h : trimStart p s = s) (t : List α) :
    trimStart p (s ++ t) = s ++ t := by
  cases s with
  | nil => exact absurd rfl hne
  | cons c s => exact List.dropWhile_cons_of_neg (by simp [not_of_head_trimStart p h])

theorem trimStart_of_free {s : List α} (h : ∀ c ∈ s, p c = false) : trimStart p s = s := by
  cases s with
  | nil => rfl
  | cons c s => exact List.dropWhile_cons_of_neg (by simp [h c List.mem_cons_self])

theorem trimEnd_of_free {s : List α} (h : ∀ c ∈ s, p c = false) : trimEnd p s = s := by
  have hreverse : trimStart p s.reverse = s.reverse :=
    trimStart_of_free fun c hc => h c (List.mem_reverse.1 hc)
  rw [trimEnd, ← trimStart, hreverse, List.reverse_reverse]

theorem trim_of_free {s : List α} (h : ∀ c ∈ s, p c = false) : trim p s = s := by
  rw [trim, trimStart_of_free h, trimEnd_of_free h]

theorem trimEnd_of_all {s : List α} (h : ∀ c ∈ s, p c = true) : trimEnd p s = [] := by
  have hnil : s.reverse.dropWhile p = [] := by
    rw [← List.append_nil s.reverse]
    exact List.dropWhile_append_of_pos fun c hc => h c (List.mem_reverse.1 hc)
  rw [trimEnd, hnil, List.reverse_nil]

/-- From behind, trimming ends where a trimmed text does. -/
theorem trimEnd_append_right {s : List α} (h : trimEnd p s = s) (t : List α) :
    trimEnd p (s ++ t) = s ++ trimEnd p t := by
  have hreverse : s.reverse.dropWhile p = s.reverse := by
    rw [← List.reverse_inj, List.reverse_reverse]
    exact h
  have hdrop : (t.reverse ++ s.reverse).dropWhile p = t.reverse.dropWhile p ++ s.reverse := by
    rw [List.dropWhile_append]
    split
    · next hempty => rw [List.isEmpty_iff.1 hempty, hreverse, List.nil_append]
    · rfl
  rw [trimEnd, List.reverse_append, hdrop, List.reverse_append, List.reverse_reverse]
  rfl

/-- Of a text between others, with nothing to trim at its ends, what is before it comes off. -/
theorem trim_between {before s : List α} (hbefore : ∀ c ∈ before, p c = true) (hne : s ≠ [])
    (hstart : trimStart p s = s) (hend : trimEnd p s = s) (after : List α) :
    trim p (before ++ s ++ after) = s ++ trimEnd p after := by
  have hfront : trimStart p (before ++ s ++ after) = s ++ after := by
    rw [List.append_assoc, trimStart, List.dropWhile_append_of_pos hbefore]
    exact trimStart_append hne hstart after
  rw [trim, hfront, trimEnd_append_right hend]

end

/-- Applies a function on characters to a string. -/
def onChars (f : List Char → List Char) (s : String) : String := String.ofList (f s.toList)

@[simp] theorem toList_onChars (f : List Char → List Char) (s : String) :
    (onChars f s).toList = f s.toList := by
  simp [onChars]

/-- The text without the blanks at its ends. -/
def trimBlanks (s : String) : String := onChars (trim isBlank) s

def isBackslash (c : Char) : Bool := c == '\\'

/-- The text without the backslashes at its front. -/
def trimLeadingBackslashes (s : String) : String := onChars (trimStart isBackslash) s

/-- The text without the backslashes at its ends. -/
def trimBackslashes (s : String) : String := onChars (trim isBackslash) s

/-- Whether the text has no character other than blanks. -/
def isAllBlank (s : String) : Bool := s.toList.all isBlank

end TableClasses.Text
