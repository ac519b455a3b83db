import Mathlib.Data.List.Induction
import TableClasses.Proofs.ClassNames

/-!
# Segments of names and paths

`segmentsOf` cuts a name at its backslashes, those at its ends left out. Joining names puts their
segments in a row, so that it does not matter in which groups names are joined. The full name of a
generated class has the segments of the base namespace, of the table, of the kind and of the class,
and the path of its file has the same ones as its names.
What is cut at a backslash or at a slash is put together by `intercalate`, and the other way round
if no part has the separator.
-/

namespace TableClasses.Text

variable {α : Type} {p : α → Bool}

theorem intercalate_append {sep : List α} {ls ms : List (List α)} (hls : ls ≠ []) (hms : ms ≠ []) :
    sep.intercalate (ls ++ ms) = sep.intercalate ls ++ sep ++ sep.intercalate ms := by
  induction ls with
  | nil => exact absurd rfl hls
  | cons l rest ih =>
    by_cases hrest : rest = []
    · subst hrest
      rw [List.singleton_append, List.intercalate_cons_of_ne_nil hms, List.intercalate_singleton]
    · rw [List.cons_append, List.intercalate_cons_of_ne_nil (by simp [hrest]), ih hrest,
        List.intercalate_cons_of_ne_nil hrest]
      simp only [List.append_assoc]

/-- Parts without the separator are the pieces of what they are joined to. -/
theorem pieces_intercalate [BEq α] [LawfulBEq α] {c : α} {parts : List (List α)}
    (h : ∀ part ∈ parts, c ∉ part) (hne : parts ≠ []) :
    pieces (· == c) ([c].intercalate parts) = parts := by
  rw [pieces_eq_splitOn]
  exact List.splitOn_intercalate c h hne

theorem trimStart_eq_self_iff {s : List α} : trimStart p s = s ↔ ∀ c ∈ s.head?, p c = false := by
  constructor
  · intro h c hc
    obtain ⟨rest, rfl⟩ := List.head?_eq_some_iff.1 hc
    exact not_of_head_trimStart p h
  · intro h
    cases s with
    | nil => rfl
    | cons c rest => exact List.dropWhile_cons_of_neg (by rw [h c rfl]; decide)

theorem trimEnd_eq_self_iff {s : List α} : trimEnd p s = s ↔ ∀ c ∈ s.getLast?, p c = false := by
  rw [← List.head?_reverse, ← trimStart_eq_self_iff, trimEnd, ← trimStart, List.reverse_eq_iff]

theorem trimEnd_append {t : List α} (hne : t ≠ []) (h : trimEnd p t = t) (s : List α) :
    trimEnd p (s ++ t) = s ++ t := by
  rw [trimEnd_eq_self_iff] at h ⊢
  rwa [List.getLast?_append_of_ne_nil s hne]

theorem trimEnd_trim (s : List α) : trimEnd p (trim p s) = trim p s := by
  have h := trim_trim p s
  rwa [trim, trimStart_trim] at h

theorem free_of_mem_pieces {s l : List α} (hl : l ∈ pieces p s) : ∀ c ∈ l, p c = false := by
  induction s generalizing l with
  | nil =>
    obtain rfl := List.mem_singleton.1 hl
    exact nofun
  | cons c s ih =>
    unfold pieces at hl
    split at hl
    · obtain rfl := List.mem_singleton.1 hl
      exact nofun
    · next m ms hpieces =>
      rw [hpieces] at ih
      split at hl
      · obtain rfl | hl := List.mem_cons.1 hl
        · exact nofun
        · exact ih hl
      · next hc =>
        obtain rfl | hl := List.mem_cons.1 hl
        · exact List.forall_mem_cons.2 ⟨by simpa using hc, ih List.mem_cons_self⟩
        · exact ih (List.mem_cons_of_mem _ hl)

end TableClasses.Text

namespace TableClasses.Code

open TableClasses.Text

/-- The segments of a name; backslashes at its ends do not count. -/
def segmentsOf (name : String) : List String :=
  if trimBackslashes name = "" then [] else splitAt '\\' (trimBackslashes name)

/-! ## Cutting and joining -/

theorem intercalate_splitAt (name : String) : "\\".intercalate (splitAt '\\' name) = name := by
  apply String.toList_injective
  have hpieces : (pieces (· == '\\') name.toList).map (String.toList ∘ String.ofList)
      = name.toList.splitOn '\\' := by
    rw [pieces_eq_splitOn]
    simp [Function.comp_def]
  rw [String.toList_intercalate, splitAt, List.map_map, hpieces]
  exact List.intercalate_splitOn _

theorem toList_backslash (s t : String) :
    (s ++ "\\" ++ t).toList = s.toList ++ '\\' :: t.toList := by
  have hsep : "\\".toList = ['\\'] := rfl
  rw [String.toList_append, String.toList_append, List.append_assoc, hsep, List.singleton_append]

theorem splitAt_append (s t : String) :
    splitAt '\\' (s ++ "\\" ++ t) = splitAt '\\' s ++ splitAt '\\' t := by
  rw [splitAt, toList_backslash, pieces_append_cons _ (by decide), List.map_append]
  rfl

theorem splitAt_intercalate {parts : List String} (h : parts ≠ []) :
    splitAt '\\' ("\\".intercalate parts) = parts.flatMap (splitAt '\\') := by
  induction parts with
  | nil => exact absurd rfl h
  | cons part rest ih =>
    by_cases hrest : rest = []
    · subst hrest
      simp
    · rw [String.intercalate_cons_of_ne_nil hrest, splitAt_append, ih hrest, List.flatMap_cons]

theorem splitAt_of_free {s : String} (h : '\\' ∉ s.toList) : splitAt '\\' s = [s] := by
  rw [splitAt, pieces_of_free (free_of_not_mem h), List.map_singleton, String.ofList_toList]

theorem trimBackslashes_of_free {s : String} (h : '\\' ∉ s.toList) : trimBackslashes s = s := by
  have hfree : ∀ c ∈ s.toList, isBackslash c = false := free_of_not_mem h
  rw [trimBackslashes, onChars, trim_of_free hfree, String.ofList_toList]

/-! ## Names without backslashes at their ends -/

/-- A name that neither starts nor ends with a backslash. -/
def Trimmed (name : String) : Prop := trimBackslashes name = name

theorem trimmed_empty : Trimmed "" := rfl

theorem trimmed_trimBackslashes (name : String) : Trimmed (trimBackslashes name) := by
  rw [Trimmed, trimBackslashes, trimBackslashes, onChars, toList_onChars, trim_trim, onChars]

theorem trimmed_iff {name : String} :
    Trimmed name ↔ trimStart isBackslash name.toList = name.toList ∧
      trimEnd isBackslash name.toList = name.toList := by
  unfold Trimmed
  rw [← String.toList_inj, trimBackslashes, toList_onChars]
  constructor
  · intro h
    exact ⟨by rw [← h, trimStart_trim], by rw [← h, trimEnd_trim]⟩
  · rintro ⟨hstart, hend⟩
    rw [trim, hstart, hend]

theorem trimmed_iff_ends {name : String} :
    Trimmed name ↔ name.toList.head? ≠ some '\\' ∧ name.toList.getLast? ≠ some '\\' := by
  have hend : ∀ last : Option Char, (∀ c ∈ last, isBackslash c = false) ↔ last ≠ some '\\' := by
    intro last
    cases last <;> simp [isBackslash]
  rw [trimmed_iff, trimStart_eq_self_iff, trimEnd_eq_self_iff, hend, hend]

theorem Trimmed.append {s t : String} (hs : Trimmed s) (ht : Trimmed t) (hsne : s ≠ "")
    (htne : t ≠ "") : Trimmed (s ++ "\\" ++ t) := by
  rw [trimmed_iff] at hs ht ⊢
  have hsne' : s.toList ≠ [] := by simpa using hsne
  have htne' : t.toList ≠ [] := by simpa using htne
  constructor
  · rw [String.toList_append, String.toList_append, List.append_assoc]
    exact trimStart_append hsne' hs.1 _
  · rw [String.toList_append]
    exact trimEnd_append htne' ht.2 _

theorem trimmed_intercalate {parts : List String} (h : ∀ s ∈ parts, Trimmed s ∧ s ≠ "")
    (hne : parts ≠ []) : Trimmed ("\\".intercalate parts) ∧ "\\".intercalate parts ≠ "" := by
  induction parts with
  | nil => exact absurd rfl hne
  | cons s rest ih =>
    obtain ⟨⟨hs, hsne⟩, hrest⟩ := List.forall_mem_cons.1 h
    by_cases hnil : rest = []
    · subst hnil
      rw [String.intercalate_singleton]
      exact ⟨hs, hsne⟩
    · obtain ⟨htrimmed, hnonempty⟩ := ih hrest hnil
      rw [String.intercalate_cons_of_ne_nil hnil]
      exact ⟨hs.append htrimmed hsne hnonempty, by simp⟩

/-! ## Segments of joined names -/

theorem segmentsOf_eq_nil_iff {name : String} : segmentsOf name = [] ↔ trimBackslashes name = "" := by
  unfold segmentsOf splitAt
  split
  · next h => exact iff_of_true rfl h
  · next h => exact iff_of_false (by simp [pieces_ne_nil]) h

theorem segmentsOf_of_free {s : String} (h : '\\' ∉ s.toList) :
    segmentsOf s = if s = "" then [] else [s] := by
  rw [segmentsOf, trimBackslashes_of_free h, splitAt_of_free h]

/-- A name is its segments with backslashes between them, but for the ends. -/
theorem intercalate_segmentsOf (name : String) :
    "\\".intercalate (segmentsOf name) = trimBackslashes name := by
  unfold segmentsOf
  split
  · next h => rw [h, String.intercalate_nil]
  · exact intercalate_splitAt _

theorem mem_parts {names : List String} {s : String}
    (hs : s ∈ (names.map trimBackslashes).filter (· != "")) : Trimmed s ∧ s ≠ "" := by
  obtain ⟨hs, hne⟩ := List.mem_filter.1 hs
  obtain ⟨name, -, rfl⟩ := List.mem_map.1 hs
  exact ⟨trimmed_trimBackslashes name, by simpa using hne⟩

theorem trimmed_joinNames (names : List String) : Trimmed (joinNames names) := by
  unfold joinNames
  by_cases hnil : (names.map trimBackslashes).filter (· != "") = []
  · rw [hnil, String.intercalate_nil]
    exact trimmed_empty
  · exact (trimmed_intercalate (fun _ => mem_parts) hnil).1

/-- Joining puts the segments of names in a row. -/
theorem segmentsOf_joinNames (names : List String) :
    segmentsOf (joinNames names) = names.flatMap segmentsOf := by
  have hparts : names.flatMap segmentsOf
      = ((names.map trimBackslashes).filter (· != "")).flatMap (splitAt '\\') := by
    induction names with
    | nil => simp only [List.map_nil, List.filter_nil, List.flatMap_nil]
    | cons name rest ih =>
      rw [List.map_cons, List.flatMap_cons, ih, segmentsOf]
      by_cases h : trimBackslashes name = "" <;> simp [h]
  rw [segmentsOf, trimmed_joinNames names, joinNames, hparts]
  by_cases hnil : (names.map trimBackslashes).filter (· != "") = []
  · rw [hnil, String.intercalate_nil, if_pos rfl, List.flatMap_nil]
  · rw [if_neg (trimmed_intercalate (fun _ => mem_parts) hnil).2, splitAt_intercalate hnil]

/-- A join is its segments with backslashes between them. -/
theorem joinNames_eq (names : List String) :
    joinNames names = "\\".intercalate (names.flatMap segmentsOf) := by
  rw [← segmentsOf_joinNames, intercalate_segmentsOf, trimmed_joinNames names]

/-- Names are joined to the same one exactly if they have the same segments in a row. -/
theorem joinNames_eq_iff {names names' : List String} :
    joinNames names = joinNames names' ↔
      names.flatMap segmentsOf = names'.flatMap segmentsOf := by
  constructor
  · intro h
    rw [← segmentsOf_joinNames, h, segmentsOf_joinNames]
  · intro h
    rw [joinNames_eq, h, ← joinNames_eq]

/-- Names may be joined group by group. -/
theorem joinNames_map_joinNames (groups : List (List String)) :
    joinNames (groups.map joinNames) = joinNames groups.flatten := by
  rw [joinNames_eq_iff, List.flatMap_map, List.flatten_eq_flatMap, List.flatMap_assoc]
  simp only [segmentsOf_joinNames, id_eq]

/-- Among other names a join stands for those it is made of. -/
theorem joinNames_append_joinNames_cons (before names after : List String) :
    joinNames (before ++ joinNames names :: after) = joinNames (before ++ names ++ after) := by
  rw [joinNames_eq_iff, List.flatMap_append, List.flatMap_cons, segmentsOf_joinNames,
    List.flatMap_append, List.flatMap_append, List.append_assoc]

theorem not_mem_segmentsOf {name s : String} (hs : s ∈ segmentsOf name) : '\\' ∉ s.toList := by
  unfold segmentsOf splitAt at hs
  split at hs
  · cases hs
  · obtain ⟨piece, hpiece, rfl⟩ := List.mem_map.1 hs
    rw [String.toList_ofList]
    exact fun hm => absurd (free_of_mem_pieces hpiece _ hm) (by decide)

end TableClasses.Code

namespace TableClasses.Path

open TableClasses.Text TableClasses.Code

/-! ## Paths of plain names -/

/-- A directory as the beginning of a path. -/
def lead (directory : String) : String :=
  if directory = "" ∨ directory.toList.getLast? = some '/' then directory else directory ++ "/"

theorem joinChars_eq {path : List Char} (h : path.head? ≠ some '/') (base : List Char) :
    joinChars base path = (lead (String.ofList base)).toList ++ path := by
  unfold joinChars lead
  rw [String.toList_ofList]
  split
  · next rest => exact absurd rfl h
  · split
    · next hlast => simp [List.getLast?_eq_none_iff.1 hlast]
    · next hlast => simp [hlast]
    · next c hc hlast =>
      have hne : base ≠ [] := by
        rintro rfl
        cases hlast
      have hslash : base.getLast? ≠ some '/' := fun he => hc (Option.some.inj (hlast ▸ he))
      simp [hne, hslash]

theorem join_eq {path : String} (h : path.toList.head? ≠ some '/') (directory : String) :
    join directory path = lead directory ++ path := by
  apply String.toList_injective
  rw [join, String.toList_ofList, joinChars_eq h, String.ofList_toList, String.toList_append]

theorem Plain.head?_ne {n : List Char} (h : Plain n) : n.head? ≠ some '/' :=
  fun hhead => h.slash (List.mem_of_head? hhead)

/-- Names between slashes leave no slash at the ends, since no name is empty. -/
theorem edges_intercalate {names : List (List Char)} (h : ∀ n ∈ names, Plain n) (hne : names ≠ []) :
    ['/'].intercalate names ≠ [] ∧ (['/'].intercalate names).head? ≠ some '/' ∧
      (['/'].intercalate names).getLast? ≠ some '/' := by
  have hpieces : pieces isSlash (['/'].intercalate names) = names :=
    pieces_intercalate (fun n hn => (h n hn).slash) hne
  have hnil : [] ∉ pieces isSlash (['/'].intercalate names) := by
    rw [hpieces]
    exact fun hm => (h [] hm).ne_nil rfl
  generalize ['/'].intercalate names = path at hnil
  refine ⟨?_, fun hhead => ?_, fun hlast => ?_⟩
  · rintro rfl
    exact hnil List.mem_cons_self
  · obtain ⟨rest, rfl⟩ := List.head?_eq_some_iff.1 hhead
    rw [← List.nil_append ('/' :: rest), pieces_append_cons [] rfl] at hnil
    exact hnil (List.mem_append_left _ List.mem_cons_self)
  · obtain ⟨init, rfl⟩ := List.getLast?_eq_some_iff.1 hlast
    rw [pieces_append_cons init rfl] at hnil
    exact hnil (List.mem_append_right _ List.mem_cons_self)

theorem lead_intercalate {names : List (List Char)} (h : ∀ n ∈ names, Plain n) (hne : names ≠ []) :
    lead (String.ofList (['/'].intercalate names))
      = String.ofList (['/'].intercalate names ++ ['/']) := by
  obtain ⟨hempty, -, hlast⟩ := edges_intercalate h hne
  have hempty' : String.ofList (['/'].intercalate names) ≠ "" := by simpa using hempty
  unfold lead
  rw [String.toList_ofList, if_neg (not_or.2 ⟨hempty', hlast⟩)]
  apply String.toList_injective
  simp

theorem foldl_joinChars {names : List (List Char)} (h : ∀ n ∈ names, Plain n) :
    names.foldl joinChars [] = ['/'].intercalate names := by
  induction names using List.reverseRecOn with
  | nil => rfl
  | append_singleton init n ih =>
    rw [List.forall_mem_append] at h
    have hn : n.head? ≠ some '/' := (h.2 n List.mem_cons_self).head?_ne
    rw [List.foldl_append, ih h.1, List.foldl_cons, List.foldl_nil, joinChars_eq hn]
    by_cases hinit : init = []
    · subst hinit
      simp [lead]
    · rw [lead_intercalate h.1 hinit, String.toList_ofList, intercalate_append hinit (by simp),
        List.intercalate_singleton]

/-! ## Ignored namespaces -/

/-- The segments of a name without those of an ignored one, if they are a proper part in front. -/
def lessIgnored (ignored segments : List String) : List String :=
  if ignored <+: segments ∧ ignored ≠ segments then segments.drop ignored.length else segments

theorem lessIgnored_append (ignored : List String) {rest : List String} (h : rest ≠ []) :
    lessIgnored ignored (ignored ++ rest) = rest := by
  have hne : ignored ≠ ignored ++ rest := by simpa using h.symm
  rw [lessIgnored, if_pos ⟨List.prefix_append _ _, hne⟩, List.drop_left]

theorem lessIgnored_cases (ignored segments : List String) :
    (∃ rest, rest ≠ [] ∧ segments = ignored ++ rest ∧ lessIgnored ignored segments = rest) ∨
      (∀ rest, rest ≠ [] → segments ≠ ignored ++ rest) ∧
        lessIgnored ignored segments = segments := by
  by_cases h : ignored <+: segments ∧ ignored ≠ segments
  · obtain ⟨⟨rest, rfl⟩, hne⟩ := h
    have hrest : rest ≠ [] := by
      rintro rfl
      exact hne (List.append_nil _).symm
    exact .inl ⟨rest, hrest, rfl, lessIgnored_append ignored hrest⟩
  · refine .inr ⟨fun rest hrest he => h ?_, if_neg h⟩
    subst he
    exact ⟨List.prefix_append _ _, by simpa using hrest.symm⟩

theorem withoutNamespace_nil (name : List Char) : withoutNamespace [] name = name := if_pos rfl

theorem withoutNamespace_append {ignored : List Char} (h : ignored ≠ []) (rest : List Char) :
    withoutNamespace ignored (ignored ++ '\\' :: rest) = rest := by
  unfold withoutNamespace
  rw [if_neg h, dropPrefix?_eq_some_iff.2 rfl]
  rfl

theorem withoutNamespace_of_ne {ignored name : List Char}
    (h : ∀ rest, name ≠ ignored ++ '\\' :: rest) : withoutNamespace ignored name = name := by
  unfold withoutNamespace
  split
  · rfl
  · split
    · next rest hprefix => exact absurd (dropPrefix?_eq_some_iff.1 hprefix) (h rest)
    · rfl

/-- What a name is without a namespace is seen from the segments of both. -/
theorem withoutNamespace_eq {name : String} (hname : Trimmed name) (hne : name ≠ "")
    (ignored : String) :
    withoutNamespace (trim isBackslash ignored.toList) name.toList
      = ("\\".intercalate (lessIgnored (segmentsOf ignored) (segmentsOf name))).toList := by
  have hwhole : "\\".intercalate (segmentsOf name) = name :=
    (intercalate_segmentsOf name).trans hname
  have htrimmed : trim isBackslash ignored.toList = (trimBackslashes ignored).toList := by
    rw [trimBackslashes, toList_onChars]
  rw [htrimmed]
  by_cases hempty : trimBackslashes ignored = ""
  · have hless : lessIgnored [] (segmentsOf name) = segmentsOf name := by
      rw [lessIgnored, List.length_nil, List.drop_zero, ite_self]
    have hnil : "".toList = [] := rfl
    rw [hempty, segmentsOf_eq_nil_iff.2 hempty, hless, hwhole, hnil, withoutNamespace_nil]
  obtain ⟨rest, hrest, hsegments, hless⟩ | ⟨hnone, hless⟩ :=
    lessIgnored_cases (segmentsOf ignored) (segmentsOf name)
  · have hignored : segmentsOf ignored ≠ [] := fun h => hempty (segmentsOf_eq_nil_iff.1 h)
    have hjoined : name = trimBackslashes ignored ++ "\\" ++ "\\".intercalate rest := by
      rw [← intercalate_segmentsOf, ← String.intercalate_append_of_ne_nil hignored hrest,
        ← hsegments, hwhole]
    rw [hless, hjoined, toList_backslash, withoutNamespace_append (by simpa using hempty)]
  · rw [hless, hwhole]
    refine withoutNamespace_of_ne fun rest hchars => ?_
    have hjoined : name = trimBackslashes ignored ++ "\\" ++ String.ofList rest := by
      apply String.toList_injective
      rw [hchars, toList_backslash, String.toList_ofList]
    have hsegments : segmentsOf name = segmentsOf ignored ++ splitAt '\\' (String.ofList rest) := by
      rw [segmentsOf, segmentsOf, hname, if_neg hne, if_neg hempty, ← splitAt_append, ← hjoined]
    exact hnone _ (by simp [splitAt, pieces_ne_nil]) hsegments

theorem lessIgnored_ne_nil (ignored : List String) {segments : List String} (h : segments ≠ []) :
    lessIgnored ignored segments ≠ [] := by
  obtain ⟨rest, hrest, -, hless⟩ | ⟨-, hless⟩ := lessIgnored_cases ignored segments
  · rw [hless]
    exact hrest
  · rw [hless]
    exact h

theorem mem_of_mem_lessIgnored {ignored segments : List String} {s : String}
    (h : s ∈ lessIgnored ignored segments) : s ∈ segments := by
  obtain ⟨rest, -, hsegments, hless⟩ | ⟨-, hless⟩ := lessIgnored_cases ignored segments
  · rw [hless] at h
    exact hsegments ▸ List.mem_append_right ignored h
  · exact hless ▸ h

/-- The path of plain segments. -/
theorem withExtension_segments {segments : List String} (h : ∀ s ∈ segments, Plain s.toList)
    (hfree : ∀ s ∈ segments, '\\' ∉ s.toList) (hne : segments ≠ []) :
    withExtension ['p', 'h', 'p'] (((pieces isBackslash
      ("\\".intercalate segments).toList).filter (· ≠ [])).foldl joinChars [])
      = ("/".intercalate segments ++ ".php").toList := by
  have hnames : ∀ n ∈ segments.map String.toList, Plain n ∧ '\\' ∉ n := by
    simpa only [List.forall_mem_map] using fun s hs => ⟨h s hs, hfree s hs⟩
  have hne' : segments.map String.toList ≠ [] := by simpa using hne
  have htexts : ("\\".intercalate segments).toList
      = ['\\'].intercalate (segments.map String.toList) := String.toList_intercalate
  have hpath : ("/".intercalate segments).toList
      = ['/'].intercalate (segments.map String.toList) := String.toList_intercalate
  generalize segments.map String.toList = names at hnames hne' htexts hpath
  have hextension : ".php".toList = ['.', 'p', 'h', 'p'] := by decide
  have hcut : pieces isBackslash (['\\'].intercalate names) = names :=
    pieces_intercalate (fun n hn => (hnames n hn).2) hne'
  have hkept : names.filter (· ≠ []) = names :=
    List.filter_eq_self.2 fun n hn => by simpa using (hnames n hn).1.ne_nil
  have hlast : Plain (afterLast isSlash (['/'].intercalate names)) := by
    have hpieces : pieces isSlash (['/'].intercalate names) = names :=
      pieces_intercalate (fun n hn => (hnames n hn).1.slash) hne'
    have hmem := List.mem_of_getLast? (getLast?_pieces (p := isSlash) (['/'].intercalate names))
    rw [hpieces] at hmem
    exact (hnames _ hmem).1
  rw [htexts, hcut, hkept, foldl_joinChars fun n hn => (hnames n hn).1,
    withExtension_eq_append _ hlast, String.toList_append, hpath, hextension]

theorem head?_segments_ne {segments : List String} (h : ∀ s ∈ segments, Plain s.toList)
    (hne : segments ≠ []) (extension : String) :
    ("/".intercalate segments ++ extension).toList.head? ≠ some '/' := by
  have hnames : ∀ n ∈ segments.map String.toList, Plain n := List.forall_mem_map.2 h
  obtain ⟨hempty, hhead, -⟩ := edges_intercalate hnames (by simpa using hne)
  rw [String.toList_append, String.toList_intercalate, show "/".toList = ['/'] from rfl,
    List.head?_append_of_ne_nil _ hempty]
  exact hhead

/-- The path of a class has the segments of its name as names. -/
theorem ofClass_eq {name : String} (hname : Trimmed name) (hne : name ≠ "")
    (hplain : ∀ s ∈ segmentsOf name, Plain s.toList) (ignored : String) :
    ofClass name ignored
      = "/".intercalate (lessIgnored (segmentsOf ignored) (segmentsOf name)) ++ ".php" := by
  have hstart : trimStart isBackslash name.toList = name.toList := (trimmed_iff.1 hname).1
  have hsegments : segmentsOf name ≠ [] :=
    fun h => hne (hname.symm.trans (segmentsOf_eq_nil_iff.1 h))
  have hpath := withExtension_segments (fun s hs => hplain s (mem_of_mem_lessIgnored hs))
    (fun s hs => not_mem_segmentsOf (mem_of_mem_lessIgnored hs))
    (lessIgnored_ne_nil (segmentsOf ignored) hsegments)
  apply String.toList_injective
  unfold ofClass
  rw [String.toList_ofList, hstart, withoutNamespace_eq hname hne]
  exact hpath

end TableClasses.Path

namespace TableClasses.Classes

open TableClasses.Text TableClasses.Naming TableClasses.Code

/-! ## Names of classes as joins -/

theorem namespaceOf_eq_joinNames (base table : String) (k : Kind) :
    (Names.ofTable base table).namespaceOf k = joinNames [base, pascal table, k.segment] :=
  joinNames_append_joinNames_cons [] [base, pascal table] [k.segment]

theorem fullName_eq_joinNames (base table : String) (k : Kind) :
    (Names.ofTable base table).fullName k
      = joinNames [base, pascal table, k.segment, (Names.ofTable base table).className k] := by
  rw [Names.fullName, namespaceOf_eq_joinNames]
  exact joinNames_append_joinNames_cons [] [base, pascal table, k.segment] [_]

/-- Of all names in any groups: joining the joins of the groups is joining all the names, and among
others a join stands for the names it is made of; a join has the segments of its names in a row, none
of them lost, and no backslash at one of its ends; and so the namespace and the full name of a class,
which are put together step by step, are joins of the base namespace, the table, the kind and the
class. -/
theorem joins_flatten (groups : List (List String)) (before names after : List String)
    (base table : String) (k : Kind) :
    joinNames (groups.map joinNames) = joinNames groups.flatten ∧
    joinNames (before ++ joinNames names :: after) = joinNames (before ++ names ++ after) ∧
    segmentsOf (joinNames names) = names.flatMap segmentsOf ∧
    ((joinNames names).toList.head? ≠ some '\\' ∧
      (joinNames names).toList.getLast? ≠ some '\\') ∧
    (Names.ofTable base table).namespaceOf k = joinNames [base, pascal table, k.segment] ∧
    (Names.ofTable base table).fullName k
      = joinNames [base, pascal table, k.segment, (Names.ofTable base table).className k] := by
  refine ⟨joinNames_map_joinNames groups, ?_, segmentsOf_joinNames names, ?_, ?_, ?_⟩
  · exact joinNames_append_joinNames_cons before names after
  · exact trimmed_iff_ends.1 (trimmed_joinNames names)
  · exact namespaceOf_eq_joinNames base table k
  · exact fullName_eq_joinNames base table k

/-- Groups without anything but backslashes leave no trace. -/
example : joinNames ([["\\", ""], ["\\App\\", "Model\\\\Db"], []].map joinNames)
    = "App\\Model\\\\Db" := by
  decide +kernel

/-! ## Generated classes -/

/-- The segment that a table gives to the namespaces of its classes, if it has any word. -/
theorem segmentsOf_pascal (table : String) :
    segmentsOf (pascal table) = if pascal table = "" then [] else [pascal table] :=
  segmentsOf_of_free (not_mem_pascal (by decide) table)

theorem segmentsOf_className (base table : String) (k : Kind) :
    segmentsOf ((Names.ofTable base table).className k) = [pascal table ++ k.suffix] := by
  rw [segmentsOf_of_free (not_mem_className (by decide) base table k),
    if_neg (className_ne_empty base table k), className_ofTable]

theorem segmentsOf_namespaceOf (base table : String) (k : Kind) :
    segmentsOf ((Names.ofTable base table).namespaceOf k)
      = segmentsOf base ++ segmentsOf (pascal table) ++ [k.segment] := by
  have hkind : segmentsOf k.segment = [k.segment] := by cases k <;> decide
  rw [namespaceOf_eq_joinNames, segmentsOf_joinNames]
  simp only [List.flatMap_cons, List.flatMap_nil, List.append_nil, List.append_assoc, hkind]

/-- The segments of the full name of a class. -/
theorem segmentsOf_fullName (base table : String) (k : Kind) :
    segmentsOf ((Names.ofTable base table).fullName k)
      = segmentsOf base ++ segmentsOf (pascal table) ++ [k.segment, pascal table ++ k.suffix] := by
  rw [Names.fullName, segmentsOf_joinNames]
  simp only [List.flatMap_cons, List.flatMap_nil, List.append_nil, segmentsOf_namespaceOf,
    segmentsOf_className, List.append_assoc, List.singleton_append]

theorem plain_segment (k : Kind) : Path.Plain k.segment.toList := by
  cases k <;> exact ⟨by decide, by decide, by decide⟩

/-- A table cannot put anything else than plain names into the name of its classes. -/
theorem plain_segmentsOf_fullName {base : String}
    (hbase : ∀ s ∈ segmentsOf base, Path.Plain s.toList) (table : String) (k : Kind) :
    ∀ s ∈ segmentsOf ((Names.ofTable base table).fullName k), Path.Plain s.toList := by
  have htable : ∀ s ∈ segmentsOf (pascal table), Path.Plain s.toList := by
    intro s hs
    rw [segmentsOf_pascal] at hs
    split at hs
    · cases hs
    · next hne =>
      obtain rfl := List.mem_singleton.1 hs
      exact ⟨by simpa using hne, not_mem_pascal (by decide) table, not_mem_pascal (by decide) table⟩
  rw [segmentsOf_fullName, List.forall_mem_append, List.forall_mem_append, List.forall_mem_cons,
    List.forall_mem_singleton]
  exact ⟨⟨hbase, htable⟩, plain_segment k, plain_className base table k⟩

/-- The file of a class lies below the directory, whatever its table is called: its path has the
segments of the name of the class, less those of the ignored namespace in front. -/
theorem pathOf_render (o : Output.Options) (r : Rendering) (k : Kind) (t : Table)
    (hbase : ∀ s ∈ segmentsOf r.baseNamespace, Path.Plain s.toList) :
    ∃ segments : List String,
      segments = segmentsOf r.baseNamespace
        ++ (if pascal t.name = "" then [] else [pascal t.name])
        ++ [k.segment, pascal t.name ++ k.suffix] ∧
      (∀ s ∈ segments, Path.Plain s.toList ∧ '\\' ∉ s.toList) ∧
      (render r k t).value.className = "\\".intercalate segments ∧
      o.pathOf (render r k t).value.className
        = Path.lead o.directory
          ++ "/".intercalate (Path.lessIgnored (segmentsOf o.ignoredNamespace) segments)
          ++ ".php" := by
  have hname : (render r k t).value.className
      = (Names.ofTable r.baseNamespace t.name).fullName k := className_build r k t
  have hplain := plain_segmentsOf_fullName hbase t.name k
  have hsegments := segmentsOf_fullName r.baseNamespace t.name k
  have htrimmed : Trimmed ((Names.ofTable r.baseNamespace t.name).fullName k) :=
    trimmed_joinNames _
  rw [hname]
  generalize (Names.ofTable r.baseNamespace t.name).fullName k = name at *
  rw [segmentsOf_pascal] at hsegments
  have hne : name ≠ "" := by
    rintro rfl
    simp [segmentsOf_eq_nil_iff.2 trimmed_empty] at hsegments
  refine ⟨segmentsOf name, hsegments, fun s hs => ⟨hplain s hs, not_mem_segmentsOf hs⟩, ?_, ?_⟩
  · rw [intercalate_segmentsOf, htrimmed]
  · rw [Output.Options.pathOf, Path.ofClass_eq htrimmed hne hplain, String.append_assoc]
    refine Path.join_eq (Path.head?_segments_ne (fun s hs => ?_) ?_ ".php") o.directory
    · exact hplain s (Path.mem_of_mem_lessIgnored hs)
    · refine Path.lessIgnored_ne_nil _ fun hnil => hne ?_
      exact htrimmed.symm.trans (segmentsOf_eq_nil_iff.1 hnil)

/-- A table whose name looks like a path. -/
def passwdTable : Table := { name := "../../etc/passwd.x", columns := [], primaryKey := none }

def slashedRendering : Rendering := { baseNamespace := "\\App\\Model\\" }

theorem pathOf_render_passwdTable :
    (∀ s ∈ segmentsOf slashedRendering.baseNamespace, Path.Plain s.toList) ∧
      ({ directory := "/srv/out/", ignoredNamespace := "App\\" } : Output.Options).pathOf
          (render slashedRendering .data passwdTable).value.className
        = "/srv/out/Model/EtcPasswdX/Data/EtcPasswdXData.php" := by
  have hbase : ∀ s ∈ segmentsOf slashedRendering.baseNamespace, Path.Plain s.toList := by
    have hsegments : segmentsOf slashedRendering.baseNamespace = ["App", "Model"] := by
      decide +kernel
    rw [hsegments, List.forall_mem_cons, List.forall_mem_singleton]
    exact ⟨⟨by decide, by decide, by decide⟩, ⟨by decide, by decide, by decide⟩⟩
  obtain ⟨segments, rfl, -, -, hpath⟩ :=
    pathOf_render { directory := "/srv/out/", ignoredNamespace := "App\\" } slashedRendering .data
      passwdTable hbase
  exact ⟨hbase, hpath.trans (by decide +kernel)⟩

end TableClasses.Classes
