import TableClasses.Diff.Text
import TableClasses.Proofs.Scripts

/-!
# Differences of texts

A difference can be read without the two texts: each of its lines is a sign and a line of a text.
`entriesIn` reads these entries off the text of a difference. The lines that are not new give the
old text back, and those that are not old the new text, each closed by a line ending; equal texts
differ nowhere.
-/

namespace TableClasses.Diff

/-! ## Lines -/

/-- A single line with its ending. -/
inductive IsLine : List Char → Prop
  | feed : IsLine ['\n']
  | carriage : IsLine ['\r']
  | both : IsLine ['\r', '\n']
  | cons {c : Char} {l : List Char} (hfeed : c ≠ '\n') (hcarriage : c ≠ '\r') (h : IsLine l) :
    IsLine (c :: l)

/-- A text with a line feed behind it if its last line has no ending. -/
def closed (s : List Char) : List Char := if s.isEmpty || isEnded s then s else s ++ ['\n']

theorem IsLine.ne_nil {l : List Char} (h : IsLine l) : l ≠ [] := by
  cases h <;> simp

theorem linesWithEnds_cons {c : Char} (hfeed : c ≠ '\n') (hcarriage : c ≠ '\r') (s : List Char) :
    linesWithEnds (c :: s) =
      match linesWithEnds s with
      | [] => [[c]]
      | l :: ls => (c :: l) :: ls := by
  rw [linesWithEnds.eq_def]
  split
  · next he => cases he
  · next he => exact absurd (List.cons.inj he).1 hfeed
  · next he => exact absurd (List.cons.inj he).1 hcarriage
  · next he => exact absurd (List.cons.inj he).1 hcarriage
  · next he =>
    obtain ⟨rfl, rfl⟩ := List.cons.inj he
    rfl

theorem linesWithEnds_carriage {s : List Char} (hs : s.head? ≠ some '\n') :
    linesWithEnds ('\r' :: s) = ['\r'] :: linesWithEnds s := by
  rw [linesWithEnds]
  rintro rest rfl
  exact hs rfl

theorem linesWithEnds_append {l : List Char} (h : IsLine l) {s : List Char}
    (hs : s.head? ≠ some '\n') : linesWithEnds (l ++ s) = l :: linesWithEnds s := by
  induction h with
  | feed => rfl
  | carriage => exact linesWithEnds_carriage hs
  | both => rfl
  | cons hfeed hcarriage _ ih => rw [List.cons_append, linesWithEnds_cons hfeed hcarriage, ih]

/-- Lines that do not begin with a line feed are found again in the text that they make. -/
theorem linesWithEnds_flatten {ls : List (List Char)}
    (h : ∀ l ∈ ls, IsLine l ∧ l.head? ≠ some '\n') : linesWithEnds ls.flatten = ls := by
  induction ls with
  | nil => rfl
  | cons l ls ih =>
    obtain ⟨⟨hl, -⟩, hls⟩ := List.forall_mem_cons.1 h
    have hhead : ls.flatten.head? ≠ some '\n' := by
      cases ls with
      | nil => simp
      | cons m ls =>
        obtain ⟨⟨hm, hhead⟩, -⟩ := List.forall_mem_cons.1 hls
        cases m with
        | nil => exact absurd rfl hm.ne_nil
        | cons c m => exact hhead
    rw [List.flatten_cons, linesWithEnds_append hl hhead, ih hls]

theorem closed_append {l : List Char} (hl : isEnded l = true) (s : List Char) :
    closed (l ++ s) = l ++ closed s := by
  cases s with
  | nil => simp [closed, hl]
  | cons c s =>
    have hended : isEnded (l ++ c :: s) = isEnded (c :: s) := by
      simp [isEnded, List.getLast?_append, List.getLast?_cons]
    unfold closed
    rw [hended]
    split <;> simp_all

theorem closed_cons {s : List Char} (hs : s ≠ []) (c : Char) : closed (c :: s) = c :: closed s := by
  have hended : isEnded (c :: s) = isEnded s := by
    simp [isEnded, List.getLast?_cons_of_ne_nil hs]
  unfold closed
  rw [hended]
  split <;> simp_all

theorem eq_nil_of_linesWithEnds {s : List Char} (h : linesWithEnds s = []) : s = [] := by
  rw [← flatten_linesWithEnds s, h]
  rfl

/-- Only the last line of a text may want an ending. -/
theorem isLine_closed {s l : List Char} (h : l ∈ linesWithEnds s) : IsLine (closed l) := by
  fun_induction linesWithEnds s generalizing l with
  | case1 => cases h
  | case2 rest ih =>
    obtain rfl | h := List.mem_cons.1 h
    · exact .feed
    · exact ih h
  | case3 rest ih =>
    obtain rfl | h := List.mem_cons.1 h
    · exact .both
    · exact ih h
  | case4 rest _ ih =>
    obtain rfl | h := List.mem_cons.1 h
    · exact .carriage
    · exact ih h
  | case5 c rest hfeed _ hcarriage hnone ih =>
    obtain rfl := List.mem_singleton.1 h
    have hclosed : closed [c] = [c, '\n'] := by
      have hended : isEnded [c] = false := by
        simpa [isEnded] using ⟨hfeed, hcarriage⟩
      simp [closed, hended]
    rw [hclosed]
    exact .cons hfeed hcarriage .feed
  | case6 c rest hfeed _ hcarriage first others hlines ih =>
    rw [hlines] at ih
    obtain rfl | h := List.mem_cons.1 h
    · have hfirst := ih List.mem_cons_self
      have hne : first ≠ [] := fun hnil => hfirst.ne_nil (by rw [hnil]; rfl)
      rw [closed_cons hne]
      exact .cons hfeed hcarriage hfirst
    · exact ih (List.mem_cons_of_mem _ h)

theorem ne_nil_of_mem_linesWithEnds {s l : List Char} (h : l ∈ linesWithEnds s) : l ≠ [] :=
  fun hnil => (isLine_closed h).ne_nil (by rw [hnil]; rfl)

theorem flatMap_closed_linesWithEnds (s : List Char) :
    (linesWithEnds s).flatMap closed = closed s := by
  fun_induction linesWithEnds s with
  | case1 => rfl
  | case2 rest ih =>
    rw [List.flatMap_cons, ih]
    exact (closed_append (l := ['\n']) rfl rest).symm
  | case3 rest ih =>
    rw [List.flatMap_cons, ih]
    exact (closed_append (l := ['\r', '\n']) rfl rest).symm
  | case4 rest _ ih =>
    rw [List.flatMap_cons, ih]
    exact (closed_append (l := ['\r']) rfl rest).symm
  | case5 c rest hfeed _ hcarriage hnone ih =>
    rw [eq_nil_of_linesWithEnds hnone, List.flatMap_singleton]
  | case6 c rest hfeed _ hcarriage first others hlines ih =>
    have hfirst : first ≠ [] := ne_nil_of_mem_linesWithEnds (hlines ▸ List.mem_cons_self)
    have hrest : rest ≠ [] := by
      rintro rfl
      cases hlines
    rw [hlines] at ih
    rw [List.flatMap_cons, closed_cons hfirst, closed_cons hrest, ← ih]
    rfl

/-! ## Entries -/

namespace Entry

/-- Whether the line belongs to the old text. -/
def isOld (e : Entry) : Bool := e.sign == ' ' || e.sign == '-'

/-- Whether the line belongs to the new text. -/
def isNew (e : Entry) : Bool := e.sign == ' ' || e.sign == '+'

/-- The entry whose text this is. -/
def ofChars? : List Char → Option Entry
  | [] => none
  | sign :: line => some ⟨sign, line⟩

/-- The entry with its line closed. -/
def close (e : Entry) : Entry := { e with line := closed e.line }

end Entry

theorem map_line_filter_isOld (s : Script (List Char)) :
    ((s.flatMap Edit.entries).filter Entry.isOld).map (·.line) = s.oldSide := by
  induction s with
  | nil => rfl
  | cons e s ih =>
    rw [List.flatMap_cons, List.filter_append, List.map_append, ih, Script.oldSide_cons]
    cases e <;> simp [Edit.entries, Edit.old, Entry.isOld, List.filter_map, Function.comp_def]

theorem map_line_filter_isNew (s : Script (List Char)) :
    ((s.flatMap Edit.entries).filter Entry.isNew).map (·.line) = s.newSide := by
  induction s with
  | nil => rfl
  | cons e s ih =>
    rw [List.flatMap_cons, List.filter_append, List.map_append, ih, Script.newSide_cons]
    cases e <;> simp [Edit.entries, Edit.new, Entry.isNew, List.filter_map, Function.comp_def]

theorem sign_of_mem_entries {s : Script (List Char)} {e : Entry} (h : e ∈ s.flatMap Edit.entries) :
    e.sign = ' ' ∨ e.sign = '-' ∨ e.sign = '+' := by
  obtain ⟨edit, -, he⟩ := List.mem_flatMap.1 h
  cases edit with
  | keep l => obtain ⟨_, -, rfl⟩ := List.mem_map.1 he; exact .inl rfl
  | delete l => obtain ⟨_, -, rfl⟩ := List.mem_map.1 he; exact .inr (.inl rfl)
  | insert l => obtain ⟨_, -, rfl⟩ := List.mem_map.1 he; exact .inr (.inr rfl)

theorem entries_eq (old new : List Char) :
    entries old new = (shownScript (linesWithEnds old) (linesWithEnds new)).flatMap Edit.entries :=
  rfl

theorem oldLines_entries (old new : List Char) :
    ((entries old new).filter Entry.isOld).map (·.line) = linesWithEnds old := by
  rw [entries_eq, map_line_filter_isOld, (turns_shownScript _ _).old]

theorem newLines_entries (old new : List Char) :
    ((entries old new).filter Entry.isNew).map (·.line) = linesWithEnds new := by
  rw [entries_eq, map_line_filter_isNew, (turns_shownScript _ _).new]

theorem line_of_mem_entries {old new : List Char} {e : Entry} (h : e ∈ entries old new) :
    e.line ∈ linesWithEnds old ∨ e.line ∈ linesWithEnds new := by
  rw [← oldLines_entries old new, ← newLines_entries old new]
  rw [entries_eq] at h
  obtain hsign | hsign | hsign := sign_of_mem_entries h
  · exact .inl (List.mem_map_of_mem (List.mem_filter.2 ⟨h, by simp [Entry.isOld, hsign]⟩))
  · exact .inl (List.mem_map_of_mem (List.mem_filter.2 ⟨h, by simp [Entry.isOld, hsign]⟩))
  · exact .inr (List.mem_map_of_mem (List.mem_filter.2 ⟨h, by simp [Entry.isNew, hsign]⟩))

theorem isLine_of_mem_entries {old new : List Char} {e : Entry} (h : e ∈ entries old new) :
    IsLine (closed e.line) :=
  (line_of_mem_entries h).elim isLine_closed isLine_closed

theorem chars_of_mem_entries {old new : List Char} {e : Entry} (h : e ∈ entries old new) :
    e.chars = e.sign :: closed e.line := by
  have hne : e.line ≠ [] := by
    intro hnil
    have hline := isLine_of_mem_entries h
    rw [hnil] at hline
    exact hline.ne_nil rfl
  unfold Entry.chars closed
  split <;> simp_all

/-! ## Reading a difference -/

/-- The entries of a difference: its lines, each with the sign apart. -/
def entriesIn (difference : String) : List Entry :=
  (linesWithEnds difference.toList).filterMap Entry.ofChars?

theorem linesWithEnds_render (old new : String) :
    linesWithEnds (render old new).toList
      = (entries old.toList new.toList).map fun e => e.sign :: closed e.line := by
  have hchars : (render old new).toList
      = ((entries old.toList new.toList).map fun e => e.sign :: closed e.line).flatten := by
    rw [render, String.toList_ofList, List.flatMap_def,
      List.map_congr_left fun e he => chars_of_mem_entries he]
  rw [hchars, linesWithEnds_flatten]
  intro l hl
  obtain ⟨e, he, rfl⟩ := List.mem_map.1 hl
  have hline := isLine_of_mem_entries he
  rw [entries_eq] at he
  have hsign : e.sign ≠ '\n' ∧ e.sign ≠ '\r' := by
    obtain h | h | h := sign_of_mem_entries he <;> rw [h] <;> decide
  exact ⟨.cons hsign.1 hsign.2 hline, by simpa using hsign.1⟩

theorem entriesIn_render (old new : String) :
    entriesIn (render old new) = (entries old.toList new.toList).map Entry.close := by
  rw [entriesIn, linesWithEnds_render, List.filterMap_map]
  exact congrFun (List.filterMap_eq_map (f := Entry.close)) _

/-- The entries show how the new text differs from the old one: those of the old text make it up,
those of the new text make that one up, and where nothing has changed every line is of both. -/
structure Shows (old new : String) (es : List Entry) : Prop where
  signs : ∀ e ∈ es, e.sign = ' ' ∨ e.sign = '-' ∨ e.sign = '+'
  lines : ∀ e ∈ es, IsLine e.line
  oldText : (es.filter Entry.isOld).flatMap (·.line) = closed old.toList
  newText : (es.filter Entry.isNew).flatMap (·.line) = closed new.toList
  same : old = new → ∀ e ∈ es, e.sign = ' '

theorem flatMap_line_close (es : List Entry) :
    (es.map Entry.close).flatMap (·.line) = (es.map (·.line)).flatMap closed := by
  rw [List.flatMap_map, List.flatMap_map]
  rfl

theorem shows_entries (old new : String) :
    Shows old new ((entries old.toList new.toList).map Entry.close) where
  signs := by
    rw [List.forall_mem_map, entries_eq]
    intro e he
    exact (sign_of_mem_entries he : e.sign = ' ' ∨ e.sign = '-' ∨ e.sign = '+')
  lines := by
    rw [List.forall_mem_map]
    exact fun e he => isLine_of_mem_entries he
  oldText := by
    have hfilter : Entry.isOld ∘ Entry.close = Entry.isOld := rfl
    rw [List.filter_map, hfilter, flatMap_line_close, oldLines_entries,
      flatMap_closed_linesWithEnds]
  newText := by
    have hfilter : Entry.isNew ∘ Entry.close = Entry.isNew := rfl
    rw [List.filter_map, hfilter, flatMap_line_close, newLines_entries,
      flatMap_closed_linesWithEnds]
  same := by
    rintro rfl
    rw [List.forall_mem_map, entries_eq, shownScript_self]
    intro e he
    obtain ⟨edit, hedit, he⟩ := List.mem_flatMap.1 he
    unfold keeping at hedit
    split at hedit
    · cases hedit
    · obtain rfl := List.mem_singleton.1 hedit
      obtain ⟨l, -, rfl⟩ := List.mem_map.1 he
      rfl

/-- The text of a difference is nothing but its entries, and they show how the texts differ. -/
theorem render_shows (old new : String) :
    (render old new).toList = (entriesIn (render old new)).flatMap (fun e => e.sign :: e.line) ∧
      Shows old new (entriesIn (render old new)) := by
  rw [entriesIn_render]
  refine ⟨?_, shows_entries old new⟩
  rw [List.flatMap_map, ← flatten_linesWithEnds (render old new).toList, linesWithEnds_render,
    ← List.flatMap_def]
  rfl

example : render "x\r\ny" "x\r\nz" = " x\r\n-y\n+z\n" := by decide +kernel

end TableClasses.Diff
