import TableClasses.Classes.Default

/-!
# Which defaults are kept

`DefaultIs` says which literal the default of a column is, if it is one. A parameter keeps its
default if all parameters after it have one, so that the list of a column in front of others grows
by the default of this column or by none, and what was kept before stays. The same holds of what is
reported.
-/

namespace TableClasses.Classes

open TableClasses.Code TableClasses.Decimal

/-! ## Defaults as literals -/

/-- The text of a column's default, other than the empty one and without a value object. -/
structure PlainDefault (c : Column) (text : String) : Prop where
  unwrapped : c.valueObject = none
  default : c.default = some text
  nonempty : text ≠ ""

/-- The default of a column is a literal of the column's category, or null. -/
inductive DefaultIs (c : Column) : Literal → Prop
  | null : c.default = none → c.nullable = true → DefaultIs c .null
  | int {text : String} {i : Int} : PlainDefault c text → c.scalar = .int →
      int64Of? text = some i → DefaultIs c (.int i)
  | float {text : String} {x : Binary64} : PlainDefault c text → c.scalar = .float →
      binaryOf? text = some x → x.isFinite = true → DefaultIs c (.float x)
  | bool {text : String} : PlainDefault c text → c.scalar = .bool →
      DefaultIs c (.bool (Schema.isTrueText text))
  | string {text : String} : PlainDefault c text → c.scalar = .string →
      DefaultIs c (.string text)

theorem defaultLiteral_of_none {c : Column} (h : c.default = none) :
    (defaultLiteral c).value = if c.nullable then some .null else none := by
  unfold defaultLiteral Column.hasDefault
  rw [h]
  cases c.nullable <;> rfl

theorem defaultLiteral_of_wrapped {c : Column} {text : String} (hwrapped : c.valueObject ≠ none)
    (hdefault : c.default = some text) : defaultLiteral c = ⟨none, []⟩ := by
  have hvalueObject : c.isValueObject = true := by
    simpa [Column.isValueObject, Option.isSome_iff_ne_none] using hwrapped
  unfold defaultLiteral
  rw [hdefault]
  simp only [hvalueObject, if_true, ite_self]
  rfl

/-- A plain default is the literal that its text is, or it is dropped and reported. -/
theorem defaultLiteral_eq {c : Column} {text : String} (h : PlainDefault c text) :
    defaultLiteral c
      = (literalOf? text c.scalar).elim ⟨none, [.defaultNotLiteral text c.name c.scalar]⟩
          fun l => ⟨some l, []⟩ := by
  have hwrapped : c.isValueObject = false := by rw [Column.isValueObject, h.unwrapped]; rfl
  have hdefault : c.hasDefault = true := by simp [Column.hasDefault, h.default, h.nonempty, hwrapped]
  unfold defaultLiteral
  rw [hdefault, h.default]
  simp only [hwrapped, Bool.not_true, Bool.false_eq_true, if_false]
  cases literalOf? text c.scalar <;> rfl

theorem defaultLiteral_of_plain {c : Column} {text : String} (h : PlainDefault c text) :
    (defaultLiteral c).value = literalOf? text c.scalar := by
  rw [defaultLiteral_eq h]
  cases literalOf? text c.scalar <;> rfl

theorem plainDefault_of_defaultLiteral {c : Column} {text : String} {l : Literal}
    (hdefault : c.default = some text) (h : (defaultLiteral c).value = some l) :
    PlainDefault c text := by
  have hhas : c.hasDefault = true := by
    cases hhas : c.hasDefault with
    | true => rfl
    | false => rw [defaultLiteral, hhas] at h; cases h
  have hwrapped : c.isValueObject = false := by
    rw [← Bool.not_eq_true]
    intro hwrapped
    simp [defaultLiteral, hhas, hdefault, hwrapped] at h
  refine ⟨by simpa [Column.isValueObject] using hwrapped, hdefault, ?_⟩
  rintro rfl
  simp [Column.hasDefault, hdefault] at hhas

theorem defaultLiteral_eq_some_iff {c : Column} {l : Literal} :
    (defaultLiteral c).value = some l ↔ DefaultIs c l := by
  constructor
  · intro h
    cases hdefault : c.default with
    | none =>
      rw [defaultLiteral_of_none hdefault] at h
      split at h
      · next hnullable => cases h; exact .null hdefault hnullable
      · cases h
    | some text =>
      have hplain := plainDefault_of_defaultLiteral hdefault h
      rw [defaultLiteral_of_plain hplain] at h
      cases hscalar : c.scalar with
      | int =>
        rw [hscalar, literalOf?, Option.map_eq_some_iff] at h
        obtain ⟨i, hi, rfl⟩ := h
        exact .int hplain hscalar hi
      | float =>
        rw [hscalar, literalOf?, Option.map_eq_some_iff] at h
        obtain ⟨x, hx, rfl⟩ := h
        obtain ⟨hx, hfinite⟩ := Option.filter_eq_some_iff.1 hx
        exact .float hplain hscalar hx hfinite
      | bool => rw [hscalar] at h; cases h; exact .bool hplain hscalar
      | string => rw [hscalar] at h; cases h; exact .string hplain hscalar
      | json => rw [hscalar] at h; cases h
      | datetime => rw [hscalar] at h; cases h
  · intro h
    cases h with
    | null hdefault hnullable => rw [defaultLiteral_of_none hdefault, if_pos hnullable]
    | int hplain hscalar hi => rw [defaultLiteral_of_plain hplain, hscalar, literalOf?, hi]; rfl
    | float hplain hscalar hx hfinite =>
      rw [defaultLiteral_of_plain hplain, hscalar, literalOf?, hx, Option.filter_some,
        if_pos hfinite]
      rfl
    | bool hplain hscalar => rw [defaultLiteral_of_plain hplain, hscalar]; rfl
    | string hplain hscalar => rw [defaultLiteral_of_plain hplain, hscalar]; rfl

/-! ## The run of defaults at the end -/

/-- Whether all columns have a default that is a literal. -/
def allDefault (columns : List Column) : Bool := columns.all fun c => (defaultLiteral c).value.isSome

theorem allDefault_iff {columns : List Column} :
    allDefault columns = true ↔ ∀ c ∈ columns, ∃ l, DefaultIs c l := by
  simp only [allDefault, List.all_eq_true, Option.isSome_iff_exists, defaultLiteral_eq_some_iff]

theorem allDefault_cons (c : Column) (rest : List Column) :
    allDefault (c :: rest) = ((defaultLiteral c).value.isSome && allDefault rest) := rfl

theorem trailingDefaults_cons (c : Column) (rest : List Column) :
    (trailingDefaults (c :: rest)).value
      = (defaultLiteral c).value.elim [] fun l => l :: (trailingDefaults rest).value := by
  rw [trailingDefaults, Warned.value_bind]
  cases (defaultLiteral c).value <;> rfl

theorem trailingDefaults_append (columns : List Column) (c : Column) :
    (trailingDefaults (columns ++ [c])).value = (trailingDefaults columns).value
      ++ if allDefault columns then (defaultLiteral c).value.toList else [] := by
  induction columns with
  | nil =>
    rw [List.nil_append, trailingDefaults_cons]
    cases (defaultLiteral c).value <;> rfl
  | cons d rest ih =>
    rw [List.cons_append, trailingDefaults_cons, trailingDefaults_cons, ih, allDefault_cons]
    cases (defaultLiteral d).value with
    | none => rfl
    | some l => rfl

theorem length_trailingDefaults_le (columns : List Column) :
    (trailingDefaults columns).value.length ≤ columns.length := by
  induction columns with
  | nil => exact Nat.le_refl 0
  | cons c rest ih =>
    rw [trailingDefaults_cons]
    cases (defaultLiteral c).value with
    | none => exact Nat.zero_le _
    | some l => exact Nat.succ_le_succ ih

theorem length_trailingDefaults_of_allDefault {columns : List Column}
    (h : allDefault columns = true) :
    (trailingDefaults columns).value.length = columns.length := by
  induction columns with
  | nil => rfl
  | cons c rest ih =>
    rw [allDefault_cons, Bool.and_eq_true] at h
    obtain ⟨l, hl⟩ := Option.isSome_iff_exists.1 h.1
    rw [trailingDefaults_cons, hl]
    exact congrArg Nat.succ (ih h.2)

theorem parameterDefaults_value (columns : List Column) :
    (parameterDefaults columns).value
      = List.replicate (columns.length - (trailingDefaults columns.reverse).value.length) none
        ++ ((trailingDefaults columns.reverse).value.map some).reverse := by
  simp only [parameterDefaults, Warned.value_bind, Warned.value_pure]

/-- The step: a column in front keeps its default if all others have one, and changes none. -/
theorem parameterDefaults_cons (c : Column) (columns : List Column) :
    (parameterDefaults (c :: columns)).value
      = (if allDefault columns then (defaultLiteral c).value else none)
        :: (parameterDefaults columns).value := by
  have hlength := length_trailingDefaults_le columns.reverse
  have hreverse : allDefault columns.reverse = allDefault columns := List.all_reverse
  rw [List.length_reverse] at hlength
  rw [parameterDefaults_value, parameterDefaults_value, List.reverse_cons, trailingDefaults_append,
    hreverse]
  -- the run from the end passes all other columns, or it ends before it comes to this one
  cases hall : allDefault columns with
  | false =>
    have hnone : columns.length + 1 - (trailingDefaults columns.reverse).value.length
        = columns.length - (trailingDefaults columns.reverse).value.length + 1 := by omega
    simp [hnone, List.replicate_succ]
  | true =>
    have hfull := length_trailingDefaults_of_allDefault (hreverse.trans hall)
    rw [List.length_reverse] at hfull
    cases (defaultLiteral c).value <;> simp [hfull]

/-- Every parameter has a default or the mark of none. -/
theorem length_parameterDefaults (columns : List Column) :
    (parameterDefaults columns).value.length = columns.length := by
  induction columns with
  | nil => rfl
  | cons c rest ih => rw [parameterDefaults_cons, List.length_cons, ih, List.length_cons]

theorem getElem?_parameterDefaults {columns : List Column} {i : Nat} {c : Column}
    (h : columns[i]? = some c) :
    (parameterDefaults columns).value[i]?
      = some (if allDefault (columns.drop (i + 1)) then (defaultLiteral c).value else none) := by
  induction columns generalizing i with
  | nil => cases h
  | cons d rest ih =>
    rw [parameterDefaults_cons]
    cases i with
    | zero =>
      obtain rfl := Option.some.inj h
      rfl
    | succ i => exact ih h

/-! ## What is reported about defaults -/

theorem warnings_trailingDefaults_cons (c : Column) (rest : List Column) :
    (trailingDefaults (c :: rest)).warnings = (defaultLiteral c).warnings
      ++ (defaultLiteral c).value.elim [] fun _ => (trailingDefaults rest).warnings := by
  rw [trailingDefaults, Warned.warnings_bind]
  cases (defaultLiteral c).value with
  | none => rfl
  | some l => simp

theorem warnings_trailingDefaults_append (columns : List Column) (c : Column) :
    (trailingDefaults (columns ++ [c])).warnings = (trailingDefaults columns).warnings
      ++ if allDefault columns then (defaultLiteral c).warnings else [] := by
  induction columns with
  | nil =>
    rw [List.nil_append, warnings_trailingDefaults_cons]
    cases (defaultLiteral c).value <;> exact List.append_nil _
  | cons d rest ih =>
    rw [List.cons_append, warnings_trailingDefaults_cons, warnings_trailingDefaults_cons, ih,
      allDefault_cons]
    -- without a literal the run ends here, and nothing behind is looked at
    cases (defaultLiteral d).value with
    | none => simp
    | some l => simp

theorem warnings_parameterDefaults_cons (c : Column) (columns : List Column) :
    (parameterDefaults (c :: columns)).warnings = (parameterDefaults columns).warnings
      ++ if allDefault columns then (defaultLiteral c).warnings else [] := by
  have hreverse : allDefault columns.reverse = allDefault columns := List.all_reverse
  simp only [parameterDefaults, Warned.warnings_bind, Warned.warnings_pure, List.append_nil,
    List.reverse_cons, warnings_trailingDefaults_append, hreverse]

/-- What is said about a default is said where it is looked at. -/
theorem warnings_subset_parameterDefaults {columns : List Column} {i : Nat} {c : Column}
    (h : columns[i]? = some c) (hlater : allDefault (columns.drop (i + 1)) = true) :
    (defaultLiteral c).warnings ⊆ (parameterDefaults columns).warnings := by
  induction columns generalizing i with
  | nil => cases h
  | cons d rest ih =>
    rw [warnings_parameterDefaults_cons]
    cases i with
    | zero =>
      obtain rfl := Option.some.inj h
      have hrest : allDefault rest = true := hlater
      rw [if_pos hrest]
      exact List.subset_append_right _ _
    | succ i => exact List.subset_append_of_subset_left _ (ih h hlater)

end TableClasses.Classes
