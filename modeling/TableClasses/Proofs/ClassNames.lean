import TableClasses.Classes.Render
import TableClasses.Output.Options
import TableClasses.Proofs.Quotations
import TableClasses.Proofs.Spelling

/-!
# Names and paths of generated classes

A class is declared under the full name that its table gives it. The last segment of that name is
the table in capitalized words with the suffix of the kind, and the last name of the path of its
file is that segment with the extension: whatever the namespaces and the directory are, `afterLast`
is not changed by what is put in front.
-/

namespace TableClasses.Text

variable {α : Type} {p : α → Bool}

/-! ## What follows the last separator -/

/-- What follows the last item that satisfies `p`; a list without one is all of it. -/
def afterLast (p : α → Bool) (s : List α) : List α :=
  match splitLast? p s with
  | some (_, r) => r
  | none => s

theorem afterLast_of_free {s : List α} (h : ∀ c ∈ s, p c = false) : afterLast p s = s := by
  unfold afterLast
  rw [splitLast?_eq_none_iff.2 h]

theorem afterLast_append_cons (s : List α) {c : α} (hc : p c = true) (t : List α) :
    afterLast p (s ++ c :: t) = afterLast p t := by
  unfold afterLast
  rw [splitLast?_append, splitLast?]
  cases splitLast? p t with
  | some _ => rfl
  | none => simp [hc]

theorem afterLast_trimStart (s : List α) : afterLast p (trimStart p s) = afterLast p s := by
  induction s with
  | nil => rfl
  | cons c s ih =>
    unfold trimStart at ih ⊢
    by_cases hc : p c = true
    · rw [List.dropWhile_cons_of_pos hc, ih]
      exact (afterLast_append_cons [] hc s).symm
    · rw [List.dropWhile_cons_of_neg hc]

theorem afterLast_append_of_free (s : List α) {t : List α} (h : ∀ c ∈ t, p c = false) :
    afterLast p (s ++ t) = afterLast p s ++ t := by
  unfold afterLast
  rw [splitLast?_append_of_free s h]
  cases splitLast? p s <;> rfl

theorem pieces_eq_splitOnP (s : List α) : pieces p s = s.splitOnP p := by
  induction s with
  | nil => rfl
  | cons c s ih =>
    rw [pieces, ih, List.splitOnP_cons_eq_if_modifyHead]
    cases hs : s.splitOnP p with
    | nil => exact absurd hs (List.splitOnP_ne_nil p s)
    | cons l ls => rfl

/-- Cutting at a character is cutting a list at an item. -/
theorem pieces_eq_splitOn [BEq α] (c : α) (s : List α) : pieces (· == c) s = s.splitOn c := by
  rw [pieces_eq_splitOnP, List.splitOn_eq_splitOnP]

theorem pieces_of_free {s : List α} (h : ∀ c ∈ s, p c = false) : pieces p s = [s] := by
  rw [pieces_eq_splitOnP, List.splitOnP_eq_singleton h]

theorem pieces_append_cons (s : List α) {c : α} (hc : p c = true) (t : List α) :
    pieces p (s ++ c :: t) = pieces p s ++ pieces p t := by
  rw [pieces_eq_splitOnP, pieces_eq_splitOnP, pieces_eq_splitOnP, List.splitOnP_append_cons s t hc]

theorem getLast?_pieces (s : List α) : (pieces p s).getLast? = some (afterLast p s) := by
  unfold afterLast
  cases hs : splitLast? p s with
  | none => rw [pieces_of_free (splitLast?_eq_none_iff.1 hs)]; rfl
  | some cut =>
    obtain ⟨c, hc, he, hr⟩ := of_splitLast? hs
    rw [he, pieces_append_cons cut.1 hc, pieces_of_free hr]
    simp

end TableClasses.Text

namespace TableClasses.Path

open TableClasses.Text

/-! ## File names -/

def isSlash (c : Char) : Bool := c == '/'

theorem afterLast_joinChars (base path : List Char) :
    afterLast isSlash (joinChars base path) = afterLast isSlash path := by
  unfold joinChars
  split
  · rfl
  · split
    · rfl
    · next hlast =>
      obtain ⟨init, rfl⟩ := List.getLast?_eq_some_iff.1 hlast
      rw [List.append_assoc]
      exact afterLast_append_cons init rfl path
    · exact afterLast_append_cons base rfl path

theorem afterLast_withoutNamespace (ignored name : List Char) :
    afterLast isBackslash (withoutNamespace ignored name) = afterLast isBackslash name := by
  unfold withoutNamespace
  split
  · rfl
  · split
    · next rest hprefix =>
      rw [dropPrefix?_eq_some_iff.1 hprefix]
      exact (afterLast_append_cons ignored rfl rest).symm
    · rfl

/-- A plain name of a file: no separator and no extension is in it. -/
structure Plain (n : List Char) : Prop where
  ne_nil : n ≠ []
  slash : '/' ∉ n
  dot : '.' ∉ n

theorem Plain.isFileName {n : List Char} (h : Plain n) : isFileName n = true := by
  have hdots : ∀ m, '.' ∈ m → n ≠ m := fun m hm he => h.dot (he ▸ hm)
  simp [Path.isFileName, h.ne_nil, hdots ['.'] (by simp), hdots ['.', '.'] (by simp)]

theorem Plain.splitExtension {n : List Char} (h : Plain n) : splitExtension n = (n, none) := by
  unfold Path.splitExtension
  rw [splitLast?_eq_none_iff.2 (free_of_not_mem h.dot)]

/-- The extension of a path that ends in a plain name comes after all of it. -/
theorem withExtension_eq_append (extension : List Char) {path : List Char}
    (h : Plain (afterLast isSlash path)) :
    withExtension extension path = path ++ '.' :: extension := by
  obtain ⟨init, hpieces⟩ := List.getLast?_eq_some_iff.1 (getLast?_pieces (p := isSlash) path)
  generalize afterLast isSlash path = n at h hpieces
  have hpath : path = ['/'].intercalate (init ++ [n]) := by
    rw [← hpieces, show isSlash = (· == '/') from rfl, pieces_eq_splitOn, List.intercalate_splitOn]
  have hnames : namesReversed path = n :: init.reverse := by
    have hne : ¬ (n = [] ∨ n = ['.']) := by
      rintro (he | he)
      · exact h.ne_nil he
      · exact h.dot (by simp [he])
    have hreverse : (pieces isSlash path).reverse = n :: init.reverse := by simp [hpieces]
    unfold namesReversed
    rw [show (fun c => c == '/') = isSlash from rfl, hreverse]
    cases init.reverse with
    | nil => rfl
    | cons m rest => rw [stripTrailing, if_neg hne]
  have hlast : ['/'].intercalate (init ++ [n ++ '.' :: extension])
      = ['/'].intercalate (init ++ [n]) ++ '.' :: extension := by
    clear hpieces hpath hnames
    induction init with
    | nil => simp
    | cons part rest ih => cases rest <;> simp_all
  unfold withExtension
  rw [hnames]
  simp only [h.isFileName, if_true, h.splitExtension, List.reverse_cons, List.reverse_reverse]
  rw [hlast, ← hpath]

/-- The last segment of a class name is the last name of the path without its extension. -/
theorem afterLast_foldl_joinChars {name n : List Char} (h : afterLast isBackslash name = n)
    (hn : Plain n) (ignored : List Char) :
    afterLast isSlash (((pieces isBackslash
      (withoutNamespace ignored (trimStart isBackslash name))).filter (· ≠ [])).foldl joinChars [])
      = n := by
  have hrelative := getLast?_pieces (p := isBackslash)
    (withoutNamespace ignored (trimStart isBackslash name))
  rw [afterLast_withoutNamespace, afterLast_trimStart, h] at hrelative
  obtain ⟨init, hpieces⟩ := List.getLast?_eq_some_iff.1 hrelative
  have hslash : ∀ c ∈ n, isSlash c = false := free_of_not_mem hn.slash
  rw [hpieces, List.filter_append, List.filter_singleton, List.foldl_append]
  simp [hn.ne_nil, afterLast_joinChars, afterLast_of_free hslash]

/-- The last name of the path of a class is its last segment with the extension. -/
theorem afterLast_ofClass {className : String} {n : List Char}
    (h : afterLast isBackslash className.toList = n) (hn : Plain n) (ignored : String) :
    afterLast isSlash (ofClass className ignored).toList = n ++ ['.', 'p', 'h', 'p'] := by
  have hlast := afterLast_foldl_joinChars h hn (trim isBackslash ignored.toList)
  have hextension : ∀ c ∈ ['.', 'p', 'h', 'p'], isSlash c = false := free_of_not_mem (by decide)
  unfold ofClass
  rw [String.toList_ofList, withExtension_eq_append _ (hlast ▸ hn),
    afterLast_append_of_free _ hextension, hlast]

end TableClasses.Path

namespace TableClasses.Output.Options

open TableClasses.Text TableClasses.Path

theorem afterLast_pathOf (o : Options) {className : String} {n : List Char}
    (h : afterLast isBackslash className.toList = n) (hn : Plain n) :
    afterLast isSlash (o.pathOf className).toList = n ++ ['.', 'p', 'h', 'p'] := by
  rw [pathOf, Path.join, String.toList_ofList, afterLast_joinChars]
  exact afterLast_ofClass h hn o.ignoredNamespace

end TableClasses.Output.Options

namespace TableClasses.Classes

open TableClasses.Text TableClasses.Naming TableClasses.Code

/-! ## Declared names -/

theorem name_use (i : Imports) (className : String) : (i.use className).2.name = i.name :=
  (Imports.use_spec i className).grows.name

theorem name_reference (i : Imports) (className : String) :
    (reference className i).2.name = i.name := name_use i className

theorem name_dataOutline (t : Table) (names : Names) (r : Rendering) :
    (dataOutline t names r).2.name = trimBackslashes (names.namespaceOf .data) := by
  have houtline : Lasting (outline t r (parameterDefaults t.readWrite).value) _ :=
    lasting_outline (fun c _ => lasting_memberType c) (fun c _ => lasting_written_hydrate true c)
      (fun c _ => lasting_written_dehydrate r.datetimeFormat c) (length_parameterDefaults _)
  obtain ⟨-, hgrows, -⟩ := houtline
    (importsFor (names.namespaceOf .data) (names.className .data)) (sound_importsFor _ _)
  unfold dataOutline
  rw [hgrows.name]
  rfl

/-- The namespace and the class that a generated file declares. -/
theorem declared_build (r : Rendering) (k : Kind) (t : Table) :
    (build r k t).value.imports.name
        = trimBackslashes ((Names.ofTable r.baseNamespace t.name).namespaceOf k) ∧
      (build r k t).value.declared.name = (Names.ofTable r.baseNamespace t.name).className k := by
  cases k with
  | data =>
    unfold build
    rw [dataFile_value, name_dataOutline, Outline.declaration]
    exact ⟨rfl, rfl⟩
  | collection =>
    simp only [build, collectionFile, importing_bind, importing_pure, Warned.value_pure,
      name_reference]
    exact ⟨rfl, trivial⟩
  | storage =>
    simp only [build, storageFile, importing_bind, importing_pure, Warned.value_pure,
      name_reference]
    exact ⟨rfl, trivial⟩

/-! ## Full names -/

theorem className_ofTable (base table : String) (k : Kind) :
    (Names.ofTable base table).className k = pascal table ++ k.suffix := rfl

/-- A class name without its namespaces has no separators. -/
theorem not_mem_className {d : Char} (hd : d ∈ separators) (base table : String) (k : Kind) :
    d ∉ ((Names.ofTable base table).className k).toList := by
  have hsuffix : separators.all (!k.suffix.toList.contains ·) = true := by cases k <;> decide
  have hfree : d ∉ k.suffix.toList := by simpa using List.all_eq_true.1 hsuffix d hd
  rw [className_ofTable, String.toList_append, List.mem_append, not_or]
  exact ⟨not_mem_pascal hd table, hfree⟩

theorem className_ne_empty (base table : String) (k : Kind) :
    (Names.ofTable base table).className k ≠ "" := by
  have hsuffix : k.suffix ≠ "" := by cases k <;> decide
  simp [className_ofTable, hsuffix]

theorem plain_className (base table : String) (k : Kind) :
    Path.Plain ((Names.ofTable base table).className k).toList where
  ne_nil := by simpa using className_ne_empty base table k
  slash := not_mem_className (by decide) base table k
  dot := not_mem_className (by decide) base table k

theorem joinNames_pair (a : String) {b : String} (hb : '\\' ∉ b.toList) (hne : b ≠ "") :
    joinNames [a, b] = if trimBackslashes a = "" then b else trimBackslashes a ++ "\\" ++ b := by
  have hfree : ∀ c ∈ b.toList, isBackslash c = false := free_of_not_mem hb
  have htrim : trimBackslashes b = b := by
    rw [trimBackslashes, onChars, trim_of_free hfree, String.ofList_toList]
  unfold joinNames
  by_cases ha : trimBackslashes a = "" <;> simp [ha, htrim, hne]

theorem fullName_ofTable (base table : String) (k : Kind) :
    (Names.ofTable base table).fullName k =
      if trimBackslashes ((Names.ofTable base table).namespaceOf k) = ""
      then (Names.ofTable base table).className k
      else trimBackslashes ((Names.ofTable base table).namespaceOf k) ++ "\\"
        ++ (Names.ofTable base table).className k :=
  joinNames_pair _ (not_mem_className (by decide) base table k) (className_ne_empty base table k)

/-- A generated file declares the class that its table names so. -/
theorem className_build (r : Rendering) (k : Kind) (t : Table) :
    (build r k t).value.className = (Names.ofTable r.baseNamespace t.name).fullName k := by
  obtain ⟨hnamespace, hclass⟩ := declared_build r k t
  rw [File.className, hnamespace, hclass, fullName_ofTable]

theorem afterLast_fullName (base table : String) (k : Kind) :
    afterLast isBackslash ((Names.ofTable base table).fullName k).toList
      = ((Names.ofTable base table).className k).toList := by
  have hfree : ∀ c ∈ ((Names.ofTable base table).className k).toList, isBackslash c = false :=
    free_of_not_mem (not_mem_className (by decide) base table k)
  rw [fullName_ofTable]
  split
  · exact afterLast_of_free hfree
  · simp only [String.toList_append, List.append_assoc]
    exact (afterLast_append_cons _ rfl _).trans (afterLast_of_free hfree)

/-- Suffixes end in different letters, so a class name tells its kind and its table. -/
theorem append_suffix_inj {p q : String} {k l : Kind} :
    p ++ k.suffix = q ++ l.suffix ↔ k = l ∧ p = q := by
  constructor
  · intro h
    have hlast := congrArg (fun s : String => s.toList.getLast?) h
    have hk : k = l := by
      revert hlast
      cases k <;> cases l <;> simp [Kind.suffix]
    subst hk
    exact ⟨rfl, (String.append_left_inj _).1 h⟩
  · rintro ⟨rfl, rfl⟩
    rfl

/-- Classes have one full name only if they are of one kind and their tables are spelt alike. -/
theorem fullName_inj {base table table' : String} {k l : Kind} :
    (Names.ofTable base table).fullName k = (Names.ofTable base table').fullName l ↔
      k = l ∧ pascal table = pascal table' := by
  constructor
  · intro h
    have hlast := congrArg (fun s : String => afterLast isBackslash s.toList) h
    simp only [afterLast_fullName, String.toList_inj] at hlast
    exact append_suffix_inj.1 hlast
  · rintro ⟨rfl, h⟩
    unfold Names.ofTable
    rw [h]

/-- So it is with the paths of classes, in any directory and whatever namespace is left out. -/
theorem pathOf_fullName_inj (o : Output.Options) {base table table' : String} {k l : Kind} :
    o.pathOf ((Names.ofTable base table).fullName k)
        = o.pathOf ((Names.ofTable base table').fullName l) ↔
      k = l ∧ pascal table = pascal table' := by
  constructor
  · intro h
    have hlast := congrArg (fun s : String => afterLast Path.isSlash s.toList) h
    simp only [o.afterLast_pathOf (afterLast_fullName _ _ _) (plain_className _ _ _),
      List.append_left_inj, String.toList_inj] at hlast
    exact append_suffix_inj.1 hlast
  · intro h
    rw [fullName_inj.2 h]

end TableClasses.Classes
