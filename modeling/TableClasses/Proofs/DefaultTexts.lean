import TableClasses.Proofs.Alignment
import TableClasses.Proofs.ClassNames
import TableClasses.Proofs.Constructors

/-!
# Texts of defaults

What becomes of the text of a column's default. `Numeral` and `Spells` say what a text stands for
without the program that reads it: a sign and digits stand for a whole number, and a word may be in
any case and have blanks around it. The default of a whole-number column is its number, or it is
dropped with a warning if it has none in range; only the least whole number is kept and read back as
a float. A flag is true for its four words and false for every other text, also for one that is none
of the words for false.
-/

namespace TableClasses.Text

variable {α : Type} {p : α → Bool}

/-! ## Words with blanks around them -/

/-- What is trimmed off stands around what is left. -/
theorem exists_around_trim (p : α → Bool) (s : List α) :
    ∃ before after, s = before ++ trim p s ++ after ∧ ∀ c ∈ before ++ after, p c = true := by
  refine ⟨s.takeWhile p, ((trimStart p s).reverse.takeWhile p).reverse, ?_, ?_⟩
  · have hend : trim p s ++ ((trimStart p s).reverse.takeWhile p).reverse = trimStart p s := by
      rw [trim, trimEnd, ← List.reverse_append, List.takeWhile_append_dropWhile,
        List.reverse_reverse]
    rw [List.append_assoc, hend, trimStart, List.takeWhile_append_dropWhile]
  · rw [List.forall_mem_append]
    exact ⟨fun _ => List.mem_takeWhile_imp,
      fun _ hc => List.mem_takeWhile_imp (List.mem_reverse.1 hc)⟩

theorem trim_append {before w after : List α} (hne : w ≠ []) (hfree : ∀ c ∈ w, p c = false)
    (hblank : ∀ c ∈ before ++ after, p c = true) : trim p (before ++ w ++ after) = w := by
  obtain ⟨hbefore, hafter⟩ := List.forall_mem_append.1 hblank
  rw [trim_between hbefore hne (trimStart_of_free hfree) (trimEnd_of_free hfree),
    trimEnd_of_all hafter, List.append_nil]

/-- The text is one of the words, in any case of its letters, and blanks around it. -/
def Spells (words : List String) (text : String) : Prop :=
  ∃ word ∈ words, ∃ before s after, text.toList = before ++ s ++ after ∧
    (∀ c ∈ before ++ after, isBlank c = true) ∧
    List.Forall₂ (fun c d : Char => c = d ∨ c = d.toUpper) s word.toList

/-- A character of a word: it is in its small form, and neither it nor its capital is a blank. -/
def isWordChar (d : Char) : Bool :=
  d.toLower == d && d.toUpper.toLower == d && !isBlank d && !isBlank d.toUpper

theorem toLower_eq_iff {c d : Char} (hd : isWordChar d = true) :
    c.toLower = d ↔ c = d ∨ c = d.toUpper := by
  simp only [isWordChar, Bool.and_eq_true, beq_iff_eq] at hd
  constructor
  · rintro rfl
    exact forall_toLower (P := fun c l => c = l ∨ c = l.toUpper) (fun _ => .inl rfl)
      (by decide) c
  · rintro (rfl | rfl)
    · exact hd.1.1.1
    · exact hd.1.1.2

theorem map_toLower_eq_iff {s word : List Char} (hword : word.all isWordChar = true) :
    s.map Char.toLower = word ↔ List.Forall₂ (fun c d => c = d ∨ c = d.toUpper) s word := by
  induction word generalizing s with
  | nil => rw [List.map_eq_nil_iff, List.forall₂_nil_right_iff]
  | cons d word ih =>
    rw [List.all_cons, Bool.and_eq_true] at hword
    cases s with
    | nil => simp
    | cons c s =>
      rw [List.map_cons, List.cons_eq_cons, List.forall₂_cons, toLower_eq_iff hword.1,
        ih hword.2]

theorem not_isBlank_of_toLower {c : Char} (h : isWordChar c.toLower = true) :
    isBlank c = false := by
  have hcases := (toLower_eq_iff h).1 rfl
  simp only [isWordChar, Bool.and_eq_true, Bool.not_eq_true'] at h
  obtain hc | hc := hcases
  · rw [hc]
    exact h.1.2
  · rw [hc]
    exact h.2

/-- The words are not empty and made of word characters. -/
def areWords (words : List String) : Bool :=
  words.all fun word => word.toList != [] && word.toList.all isWordChar

/-- Without the blanks around it and in small letters, the text is one of the words. -/
theorem spells_iff {words : List String} (hwords : areWords words = true) {text : String} :
    Spells words text ↔ words.contains (asciiLower (trimBlanks text)) = true := by
  have hword : ∀ word ∈ words, word.toList ≠ [] ∧ word.toList.all isWordChar = true := by
    simpa [areWords] using hwords
  rw [List.contains_iff_mem]
  constructor
  · rintro ⟨word, hmem, before, s, after, htext, hblank, hs⟩
    obtain ⟨hne, hchars⟩ := hword word hmem
    have hlower : s.map Char.toLower = word.toList := (map_toLower_eq_iff hchars).2 hs
    -- a spelling of a word has no blanks, so that only those around it are trimmed off
    have hfree : ∀ c ∈ s, isBlank c = false := fun c hc =>
      not_isBlank_of_toLower
        (List.all_eq_true.1 hchars _ (hlower ▸ List.mem_map_of_mem hc))
    have hs : s ≠ [] := by
      rintro rfl
      exact hne hlower.symm
    rw [asciiLower, onChars, trimBlanks, toList_onChars, htext, trim_append hs hfree hblank, hlower,
      String.ofList_toList]
    exact hmem
  · intro hmem
    obtain ⟨before, after, htext, hblank⟩ := exists_around_trim isBlank text.toList
    refine ⟨_, hmem, before, _, after, htext, hblank, ?_⟩
    refine (map_toLower_eq_iff (hword _ hmem).2).1 ?_
    rw [asciiLower, toList_onChars, trimBlanks, toList_onChars]

end TableClasses.Text

namespace TableClasses.Classes

open TableClasses.Code TableClasses.Decimal TableClasses.Schema TableClasses.Text

/-! ## Whole numbers -/

/-- What should become of the text of a whole number: it is kept as its number, which is read back
from the generated code, or it is no numeral of a number that can be read back and is reported. -/
inductive IntAsGiven (c : Column) (text : String) : Warned (Option Literal) → Prop
  | kept {i : Int} : Numeral text.toList i →
      constant? (Literal.int i).text.toList = some (.int i) →
      IntAsGiven c text ⟨some (.int i), []⟩
  | dropped : (∀ i, Numeral text.toList i → bound 63 ≤ i.natAbs) →
      IntAsGiven c text ⟨none, [.defaultNotLiteral text c.name .int]⟩

theorem constant?_int_of_lt {i : Int} (h : i.natAbs < bound 63) :
    constant? (Literal.int i).text.toList = some (.int i) := by
  obtain ⟨x, hx⟩ := constant?_int i
  rw [hx, if_pos h]

theorem constant?_leastInt :
    ∃ x, constant? (Literal.int leastInt).text.toList = some (.float x) := by
  obtain ⟨x, hx⟩ := constant?_int leastInt
  exact ⟨x, by rw [hx, if_neg (by decide)]⟩

/-- All but one of the numbers that are kept are read back. -/
theorem inInt64_iff {i : Int} : inInt64 i = true ↔ i.natAbs < bound 63 ∨ i = leastInt := by
  have hpos : 0 < bound 63 := by decide
  simp only [inInt64, Bool.and_eq_true, decide_eq_true_eq, leastInt]
  omega

section
variable {c : Column} {text : String}

theorem intAsGiven_of_int64Of?_eq_none (h : int64Of? text = none) :
    IntAsGiven c text ⟨none, [.defaultNotLiteral text c.name .int]⟩ := by
  refine .dropped fun i hnumeral => Nat.not_lt.1 fun hlt => ?_
  have hout := int64Of?_eq_none_iff.1 h i hnumeral
  rw [inInt64_iff.2 (.inl hlt)] at hout
  cases hout

theorem not_intAsGiven_leastInt : ¬ IntAsGiven c text ⟨some (.int leastInt), []⟩ := by
  intro hgiven
  obtain ⟨x, hx⟩ := constant?_leastInt
  cases hgiven with
  | kept _ hread =>
    rw [hx] at hread
    cases hread

/-- Of every whole-number column: its default text is kept as its number, which is read back from
the generated code, or it is no numeral of such a number and is dropped with one warning; only the
least whole number is kept as what is read back as a float. With a value object there is no
default. -/
theorem intDefault_asGiven_iff (hscalar : c.scalar = .int) (hdefault : c.default = some text)
    (hne : text ≠ "") :
    (c.valueObject ≠ none → defaultLiteral c = ⟨none, []⟩) ∧
    (c.valueObject = none →
      (IntAsGiven c text (defaultLiteral c) ↔ ¬ Numeral text.toList leastInt) ∧
      (Numeral text.toList leastInt → defaultLiteral c = ⟨some (.int leastInt), []⟩ ∧
        ∃ x, constant? (Literal.int leastInt).text.toList = some (.float x))) := by
  refine ⟨fun hwrapped => defaultLiteral_of_wrapped hwrapped hdefault, fun hplain => ?_⟩
  have hliteral := defaultLiteral_eq ⟨hplain, hdefault, hne⟩
  rw [hscalar, literalOf?] at hliteral
  cases hi : int64Of? text with
  | none =>
    have hleast : ¬ Numeral text.toList leastInt := fun hnumeral =>
      absurd (int64Of?_eq_none_iff.1 hi _ hnumeral) (by decide)
    rw [hi] at hliteral
    rw [hliteral]
    exact ⟨iff_of_true (intAsGiven_of_int64Of?_eq_none hi) hleast, fun h => absurd h hleast⟩
  | some i =>
    obtain ⟨hnumeral, hin⟩ := int64Of?_eq_some_iff.1 hi
    rw [hi] at hliteral
    rw [hliteral]
    -- in the range of 64 bits there is one number whose digits are too large without the sign
    obtain hlt | rfl := inInt64_iff.1 hin
    · have hleast : ¬ Numeral text.toList leastInt := by
        intro h
        rw [hnumeral.unique h] at hlt
        exact absurd hlt (by decide)
      exact ⟨iff_of_true (.kept hnumeral (constant?_int_of_lt hlt)) hleast,
        fun h => absurd h hleast⟩
    · exact ⟨iff_of_false not_intAsGiven_leastInt (not_not_intro hnumeral),
        fun _ => ⟨rfl, constant?_leastInt⟩⟩

end

/-- A whole number with a sign and a zero in front. -/
def balanceColumn : Column := { name := "balance", scalar := .int, default := some "-042" }

theorem intDefault_asGiven_balance :
    balanceColumn.scalar = .int ∧ balanceColumn.default = some "-042" ∧ "-042" ≠ "" ∧
      balanceColumn.valueObject = none ∧ ¬ Numeral "-042".toList leastInt ∧
      IntAsGiven balanceColumn "-042" (defaultLiteral balanceColumn) := by
  have hleast : ¬ Numeral "-042".toList leastInt := by
    rw [← intOf?_eq_some_iff]
    decide
  exact ⟨rfl, rfl, by decide, rfl, hleast,
    ((intDefault_asGiven_iff rfl rfl (by decide)).2 rfl).1.2 hleast⟩

/-- The least whole number as a default. -/
def leastColumn : Column := { name := "n", scalar := .int, default := some "-9223372036854775808" }

/-- It is kept, but it is not read back. -/
theorem leastColumn_not_asGiven :
    defaultLiteral leastColumn = ⟨some (.int leastInt), []⟩ ∧
      (Literal.int leastInt).text = "-9223372036854775808" ∧
      ¬ IntAsGiven leastColumn "-9223372036854775808" (defaultLiteral leastColumn) :=
  ⟨by rfl, by decide, not_intAsGiven_leastInt⟩

/-! ## Parameters by position -/

/-- All columns after a position have a default that is a literal. -/
def LaterDefault (columns : List Column) (i : Nat) : Prop :=
  ∀ d ∈ columns.drop (i + 1), ∃ l, DefaultIs d l

/-- The parameter of the column at a position, in a class that was built with these warnings: what
became of the column's default counts if all later columns have one. -/
structure ParameterAt (columns : List Column) (i : Nat) (c : Column) (warnings : List Warning)
    (p : Parameter) : Prop where
  name : p.name = c.field
  kept : LaterDefault columns i → p.default = (defaultLiteral c).value
  reported : LaterDefault columns i → (defaultLiteral c).warnings ⊆ warnings
  absent : ¬ LaterDefault columns i → p.default = none

theorem laterDefault_iff {columns : List Column} {i : Nat} :
    LaterDefault columns i ↔ allDefault (columns.drop (i + 1)) = true :=
  allDefault_iff.symm

theorem laterDefault_append (front : List Column) (c : Column) :
    LaterDefault (front ++ [c]) front.length := by
  intro d hd
  rw [List.drop_eq_nil_of_le (by simp)] at hd
  cases hd

/-- The constructor of every data class has a parameter for the column at a position. -/
theorem exists_parameterAt (r : Rendering) {t : Table} {i : Nat} {c : Column}
    (hc : t.readWrite[i]? = some c) :
    ∃ m p, (build r .data t).value.declared.method? "__construct" = some m ∧
      m.params[i]? = some p ∧
      ParameterAt t.readWrite i c (build r .data t).warnings p := by
  have hwarnings : (build r .data t).warnings = (parameterDefaults t.readWrite).warnings :=
    List.append_nil _
  have hnames := param_names_dataOutline t (Names.ofTable r.baseNamespace t.name) r
  have hdefaults := dataOutline_defaults t (Names.ofTable r.baseNamespace t.name) r
  rw [hwarnings]
  simp only [build, dataFile_value]
  generalize dataOutline t (Names.ofTable r.baseNamespace t.name) r = result at hnames hdefaults ⊢
  obtain ⟨o, imports⟩ := result
  have hmap : o.constructor.params.map (·.default) = (parameterDefaults t.readWrite).value := by
    rw [← hdefaults]
    exact List.map_map
  have hname := congrArg (·[i]?) hnames
  simp only [List.getElem?_map, hc, Option.map_some] at hname
  obtain ⟨p, hp, hname⟩ := Option.map_eq_some_iff.1 hname
  have hdefault := congrArg (·[i]?) hmap
  simp only [List.getElem?_map, hp, getElem?_parameterDefaults hc, Option.map_some,
    Option.some.injEq] at hdefault
  refine ⟨o.constructor, p, rfl, hp, hname, fun hlater => ?_, fun hlater => ?_, fun hlater => ?_⟩
  · rw [hdefault, if_pos (laterDefault_iff.1 hlater)]
  · exact warnings_subset_parameterDefaults hc (laterDefault_iff.1 hlater)
  · rw [hdefault, if_neg (mt laterDefault_iff.2 hlater)]

/-! ## Flags -/

/-- The words for a flag that is false. -/
def falseTexts : List String := ["0", "false", "off", "no"]

/-- What should become of the text of a flag: it is the flag that its word means, or it is none of
the words and is reported. -/
inductive FlagAsGiven (c : Column) (text : String) : Warned (Option Literal) → Prop
  | on : Spells trueTexts text → FlagAsGiven c text ⟨some (.bool true), []⟩
  | off : Spells falseTexts text → FlagAsGiven c text ⟨some (.bool false), []⟩
  | dropped : ¬ Spells trueTexts text → ¬ Spells falseTexts text →
      FlagAsGiven c text ⟨none, [.defaultNotLiteral text c.name .bool]⟩

section
variable {c : Column} {text : String}

theorem isTrueText_iff : isTrueText text = true ↔ Spells trueTexts text :=
  (spells_iff (by decide)).symm

/-- No text is a word for both. -/
theorem not_spells_falseTexts (h : Spells trueTexts text) : ¬ Spells falseTexts text := by
  rw [spells_iff (by decide)] at h ⊢
  have hdisjoint : ∀ word ∈ trueTexts, ¬ falseTexts.contains word = true := by decide
  exact hdisjoint _ (List.contains_iff_mem.1 h)

theorem flagAsGiven_iff {b : Bool} (hb : b = true ↔ Spells trueTexts text) :
    FlagAsGiven c text ⟨some (.bool b), []⟩ ↔ Spells trueTexts text ∨ Spells falseTexts text := by
  constructor
  · intro h
    cases h with
    | on hon => exact .inl hon
    | off hoff => exact .inr hoff
  · rintro (hon | hoff)
    · rw [hb.2 hon]
      exact .on hon
    · have hoff' : b = false := by
        rw [← Bool.not_eq_true, hb]
        exact fun hon => not_spells_falseTexts hon hoff
      rw [hoff']
      exact .off hoff

/-- Of every flag: its default text is kept as true if it is one of the words for true, and as false
whatever else it is, so it is kept as given exactly if it is one of the eight words. At every
position of every table, this is what the constructor parameter of the column gets if all later
columns have a default. With a value object there is no default. -/
theorem flagDefault_asGiven_iff (hscalar : c.scalar = .bool) (hdefault : c.default = some text)
    (hne : text ≠ "") :
    (c.valueObject ≠ none → defaultLiteral c = ⟨none, []⟩) ∧
    (c.valueObject = none →
      (∃ b, defaultLiteral c = ⟨some (.bool b), []⟩ ∧ (b = true ↔ Spells trueTexts text)) ∧
      (FlagAsGiven c text (defaultLiteral c)
        ↔ Spells trueTexts text ∨ Spells falseTexts text)) ∧
    ∀ (r : Rendering) (t : Table) (i : Nat), t.readWrite[i]? = some c →
      ∃ m p, (build r .data t).value.declared.method? "__construct" = some m ∧
        m.params[i]? = some p ∧
        ParameterAt t.readWrite i c (build r .data t).warnings p := by
  refine ⟨fun hwrapped => defaultLiteral_of_wrapped hwrapped hdefault, fun hplain => ?_,
    fun r t i hc => exists_parameterAt r hc⟩
  have hliteral := defaultLiteral_eq ⟨hplain, hdefault, hne⟩
  rw [hscalar, literalOf?, Option.elim_some] at hliteral
  rw [hliteral]
  exact ⟨⟨_, rfl, isTrueText_iff⟩, flagAsGiven_iff isTrueText_iff⟩

end

/-- A flag whose default is given in capitals with blanks around it. -/
def activeColumn : Column := { name := "active", scalar := .bool, default := some " YES\n" }

/-- A table that ends with this flag. -/
def activeTable : Table :=
  { name := "members", columns := [balanceColumn, activeColumn], primaryKey := none }

theorem flagDefault_asGiven_active :
    activeColumn.scalar = .bool ∧ activeColumn.default = some " YES\n" ∧ " YES\n" ≠ "" ∧
      activeColumn.valueObject = none ∧ Spells trueTexts " YES\n" ∧
      FlagAsGiven activeColumn " YES\n" (defaultLiteral activeColumn) ∧
      activeTable.readWrite[1]? = some activeColumn ∧
      ∃ m p, (build {} .data activeTable).value.declared.method? "__construct" = some m ∧
        m.params[1]? = some p ∧ p.default = some (.bool true) := by
  have hspells : Spells trueTexts " YES\n" := isTrueText_iff.1 (by decide)
  obtain ⟨-, hplain, hparameter⟩ :=
    flagDefault_asGiven_iff (c := activeColumn) rfl rfl (by decide : " YES\n" ≠ "")
  obtain ⟨⟨b, hliteral, hb⟩, hgiven⟩ := hplain rfl
  obtain ⟨m, p, hm, hp, hat⟩ := hparameter {} activeTable 1 rfl
  refine ⟨rfl, rfl, by decide, rfl, hspells, hgiven.2 (.inl hspells), rfl, m, p, hm, hp, ?_⟩
  rw [hat.kept (laterDefault_append [balanceColumn] activeColumn), hliteral, hb.2 hspells]

/-- A flag whose default is a bit in the notation of a database. -/
def bitColumn : Column := { name := "visible", scalar := .bool, default := some "b'1'" }

/-- It is kept as false, and nothing is reported. -/
theorem bitColumn_not_asGiven :
    defaultLiteral bitColumn = ⟨some (.bool false), []⟩ ∧
      ¬ FlagAsGiven bitColumn "b'1'" (defaultLiteral bitColumn) := by
  have hplain : PlainDefault bitColumn "b'1'" := ⟨rfl, rfl, by decide⟩
  have hfalse : isTrueText "b'1'" = false := by decide
  have hliteral : defaultLiteral bitColumn = ⟨some (.bool false), []⟩ := by
    rw [defaultLiteral_eq hplain, ← hfalse]
    rfl
  have hunspelt : ¬ Spells falseTexts "b'1'" := by
    rw [spells_iff (by decide)]
    decide
  refine ⟨hliteral, ?_⟩
  rw [hliteral]
  intro h
  cases h with
  | off hoff => exact hunspelt hoff

end TableClasses.Classes
