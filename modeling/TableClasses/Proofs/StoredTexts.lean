import TableClasses.Proofs.ColumnFacts
import TableClasses.Proofs.DefaultTexts

/-!
# Stored texts

A database stores the default of a text between single quotes and with every quote in it doubled.
The quotes around it are taken off and those in it stay doubled, so a column has the default that
was stored exactly if there is no quote in it. What the column has is also what its parameter has:
the quotes of the generated code are undone where it is read.
-/

namespace TableClasses.Schema

open TableClasses.Text TableClasses.ValueObject TableClasses.Code TableClasses.Classes

/-! ## Doubled quotes -/

/-- Every single quote twice. -/
def double : List Char → List Char
  | [] => []
  | c :: s => if c = '\'' then c :: c :: double s else c :: double s

/-- The text as a database stores it. -/
def storedText (s : String) : String := String.ofList ('\'' :: double s.toList ++ ['\''])

theorem length_double (s : List Char) : (double s).length = s.length + s.count '\'' := by
  induction s with
  | nil => rfl
  | cons c s ih =>
    rw [double, List.count_cons, List.length_cons]
    split
    · next hc =>
      subst hc
      simp only [List.length_cons, ih, beq_self_eq_true, if_true]
      omega
    · next hc =>
      simp only [List.length_cons, ih, beq_iff_eq, hc, if_false]
      omega

theorem double_of_not_mem {s : List Char} (h : '\'' ∉ s) : double s = s := by
  induction s with
  | nil => rfl
  | cons c s ih =>
    rw [List.mem_cons, not_or] at h
    rw [double, if_neg (Ne.symm h.1), ih h.2]

/-- Doubling changes every text with a quote. -/
theorem double_eq_self_iff {s : List Char} : double s = s ↔ '\'' ∉ s := by
  refine ⟨fun h => List.count_eq_zero.1 ?_, double_of_not_mem⟩
  have hlength := congrArg List.length h
  rw [length_double] at hlength
  omega

theorem ofList_double_eq_iff {s : String} :
    String.ofList (double s.toList) = s ↔ '\'' ∉ s.toList := by
  rw [← double_eq_self_iff, ← String.toList_inj, String.toList_ofList]

theorem ofList_double_ne {s : String} (h : s ≠ "") : String.ofList (double s.toList) ≠ "" := by
  intro hempty
  have hlength := congrArg (fun t => t.toList.length) hempty
  simp only [String.toList_ofList, length_double] at hlength
  have hnil := List.length_eq_zero_iff.1 (Nat.eq_zero_of_add_eq_zero_right hlength)
  exact h (String.toList_eq_nil_iff.1 hnil)

/-! ## Defaults of stored texts -/

theorem unquote_stored (s : List Char) : unquote ('\'' :: s ++ ['\'']) = s := by
  simp [unquote]

/-- A stored text is never null, which has no quotes. -/
theorem defaultOf_storedText (s : String) :
    (defaultOf (.string (storedText s))).value = some (String.ofList (double s.toList)) := by
  have hnull : asciiLower (storedText s) ≠ "null" := by
    intro h
    have hchars := congrArg String.toList h
    simp [asciiLower, storedText] at hchars
  rw [defaultOf, if_neg hnull, Warned.value_pure, onChars, storedText, String.toList_ofList,
    unquote_stored]

theorem constant?_double_iff {s : String} :
    constant? (Literal.string (String.ofList (double s.toList))).text.toList
        = some (.string s.toList) ↔ '\'' ∉ s.toList := by
  rw [constant?_string, String.toList_ofList, Option.some.injEq, Constant.string.injEq,
    double_eq_self_iff]

/-- The last parameter has the default of the last column, whatever comes before. -/
theorem exists_lastParameter (r : Rendering) {t : Table} {front : List Column} {c : Column}
    {l : Literal} (hlast : t.readWrite = front ++ [c]) (hl : (defaultLiteral c).value = some l) :
    ∃ method p, (build r .data t).value.declared.method? "__construct" = some method ∧
      method.params[front.length]? = some p ∧ p.name = c.field ∧ p.default = some l := by
  have hc : t.readWrite[front.length]? = some c := by
    rw [hlast, List.getElem?_concat_length]
  obtain ⟨method, p, hmethod, hp, hparameter⟩ := exists_parameterAt r hc
  refine ⟨method, p, hmethod, hp, hparameter.name, ?_⟩
  rw [hparameter.kept (hlast ▸ laterDefault_append front c), hl]

section
variable {overlay : Option Overlay} {m : Mapper} {doc : Json} {w : Warned (List Table × Mapper)}

/-- Of every text column of a document whose record gives a stored default: the column has what was
stored exactly if this has no quote, and so has the parameter of the last column as it is read from
the generated code; otherwise both have the quotes doubled. With a value object there is no
default. -/
theorem default_storedText_iff (h : normalize overlay m doc = .ok w) {t : Table}
    (ht : t ∈ w.value.1) :
    ∃ visits, BuiltFrom overlay m doc t visits ∧
      ∀ v ∈ visits, ∀ c, v.column? overlay m t.name = some c → c.scalar = .string →
        ∀ s : String, v.Gives .default (.string (storedText s)) →
          (c.valueObject ≠ none → c.default = none) ∧
          (c.valueObject = none →
            c.default = some (String.ofList (double s.toList)) ∧
            (c.default = some s ↔ '\'' ∉ s.toList) ∧
            (s ≠ "" → ∀ (r : Rendering) (front : List Column), t.readWrite = front ++ [c] →
              ∃ method p l, (build r .data t).value.declared.method? "__construct" = some method ∧
                method.params[front.length]? = some p ∧ p.name = c.field ∧ p.default = some l ∧
                constant? l.text.toList = some (.string (double s.toList)) ∧
                (constant? l.text.toList = some (.string s.toList) ↔ '\'' ∉ s.toList))) := by
  obtain ⟨visits, hbuilt⟩ := exists_builtFrom h ht
  refine ⟨visits, hbuilt, fun v _ c hc hscalar s hgives => ?_⟩
  have hdefault := Visit.default_eq hc hgives
  rw [defaultOf_storedText, hscalar] at hdefault
  refine ⟨fun hwrapped => ?_, fun hplain => ?_⟩
  · rw [hdefault, if_pos (by simpa [Option.isSome_iff_ne_none, Scalar.hasLiterals] using hwrapped)]
  · rw [if_neg (by simp [hplain, Scalar.hasLiterals])] at hdefault
    refine ⟨hdefault, ?_, fun hne r front hlast => ?_⟩
    · rw [hdefault, Option.some.injEq, ofList_double_eq_iff]
    · have hnonempty : String.ofList (double s.toList) ≠ "" := ofList_double_ne hne
      have hliteral := defaultLiteral_of_plain ⟨hplain, hdefault, hnonempty⟩
      rw [hscalar, literalOf?] at hliteral
      obtain ⟨method, p, hmethod, hp, hname, hl⟩ := exists_lastParameter r hlast hliteral
      refine ⟨method, p, _, hmethod, hp, hname, hl, ?_, constant?_double_iff⟩
      rw [constant?_string, String.toList_ofList]

end

/-- A catalog of a table with two stored texts. -/
def draftCatalog : Json :=
  .object
    [("posts", .object
       [("columns", .object
          [("slug", .object
             [("DATA_TYPE", .string "varchar"), ("COLUMN_DEFAULT", .string "'NULL'")]),
           ("status", .object
             [("DATA_TYPE", .string "varchar"), ("COLUMN_DEFAULT", .string "'draft'")])])])]

theorem default_storedText_draftCatalog :
    ∃ w t visits, normalize none (.ofCatalog []) draftCatalog = .ok w ∧ t ∈ w.value.1 ∧
      BuiltFrom none (.ofCatalog []) draftCatalog t visits ∧
      ∃ v ∈ visits, ∃ c, v.column? none (.ofCatalog []) t.name = some c ∧ c.scalar = .string ∧
        v.Gives .default (.string (storedText "draft")) ∧ c.valueObject = none ∧
        c.default = some "draft" ∧
        ∃ front, t.readWrite = front ++ [c] ∧
          ∃ method p l, (build {} .data t).value.declared.method? "__construct" = some method ∧
            method.params[front.length]? = some p ∧ p.default = some l ∧
            constant? l.text.toList = some (.string "draft".toList) := by
  obtain ⟨w, hw, hone⟩ : ∃ w, normalize none (.ofCatalog []) draftCatalog = .ok w ∧
      w.value.1.map (·.name) = ["posts"] := ⟨_, rfl, by decide⟩
  obtain ⟨t, ht, hname⟩ := List.mem_map.1 (hone ▸ List.mem_singleton_self "posts")
  obtain ⟨visits, hbuilt, hdefault⟩ := default_storedText_iff hw ht
  obtain ⟨root, hroot, hvisits⟩ := hbuilt.visited
  cases hroot
  obtain ⟨-, rfl⟩ := Prod.mk.inj (List.mem_singleton.1 hvisits)
  have hlast : t.readWrite = [{ name := "slug", scalar := .string, default := some "NULL" }]
      ++ [{ name := "status", scalar := .string, default := some "draft" }] := by
    rw [Table.readWrite, hbuilt.columns, hname]
    decide
  have hfree : '\'' ∉ "draft".toList := by decide
  have hstored : Json.string "'draft'" = .string (storedText "draft") :=
    congrArg Json.string (by decide)
  obtain ⟨-, hkept⟩ := hdefault _ (.tail _ (.head _)) _ rfl rfl "draft" ⟨_, rfl, hstored⟩
  obtain ⟨-, hsame, hparameter⟩ := hkept rfl
  obtain ⟨method, p, l, hmethod, hp, -, hl, -, hread⟩ := hparameter (by decide) {} _ hlast
  exact ⟨w, t, _, hw, ht, hbuilt, _, .tail _ (.head _), _, rfl, rfl, ⟨_, rfl, hstored⟩, rfl,
    hsame.2 hfree, _, hlast, method, p, l, hmethod, hp, hl, hread.2 hfree⟩

/-- A catalog with a quote in a stored text. -/
def quoteCatalog : Json :=
  .object
    [("posts", .object
       [("columns", .object
          [("title", .object
             [("DATA_TYPE", .string "varchar"),
              ("COLUMN_DEFAULT", .string (storedText "it's"))])])])]

/-- The quote stays doubled. -/
theorem quoteCatalog_default :
    storedText "it's" = "'it''s'" ∧
      ∃ w, normalize none (.ofCatalog []) quoteCatalog = .ok w ∧
        w.value.1.flatMap (fun t => t.columns.map fun c => (c.name, c.scalar, c.default))
          = [("title", .string, some "it''s")] :=
  ⟨by decide, _, rfl, by decide⟩

end TableClasses.Schema
