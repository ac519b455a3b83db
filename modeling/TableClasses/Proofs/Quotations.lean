import TableClasses.Proofs.Outlines

/-!
# Strings in code

A generated text has strings between its other code, each between single quotes. A `Quotation` is a
string with the code next to it. `Reads` says that the scanner of the language finds given strings
in a text, each at its place and in their order; `Written` says that they were put there, and is
closed under the ways in which code is put together. What is written is read.
-/

namespace TableClasses.Code

open TableClasses.Text

/-! ## Scanning one string -/

@[simp] theorem escape_nil : escape [] = [] := rfl

theorem escape_special {c : Char} (h : c = '\\' ∨ c = '\'') (s : List Char) :
    escape (c :: s) = '\\' :: c :: escape s := by
  rw [escape, if_pos h]

theorem escape_plain {c : Char} (h : ¬ (c = '\\' ∨ c = '\'')) (s : List Char) :
    escape (c :: s) = c :: escape s := by
  rw [escape, if_neg h]

theorem escape_append (s t : List Char) : escape (s ++ t) = escape s ++ escape t := by
  induction s with
  | nil => rfl
  | cons c rest ih =>
    rw [List.cons_append, escape, escape, ih]
    split <;> rfl

theorem scanInside_plain {c : Char} (hquote : c ≠ '\'') (hslash : c ≠ '\\') (rest : List Char) :
    scanInside (c :: rest) = (scanInside rest).map fun (s, t) => (c :: s, t) := by
  rw [scanInside]
  · exact hquote
  · intro d rest' he
    exact absurd he hslash

/-- The scanner stops at the quote that ends an escaped string and gives the string back. -/
theorem scanInside_escape (s rest : List Char) :
    scanInside (escape s ++ '\'' :: rest) = some (s, rest) := by
  induction s with
  | nil => rfl
  | cons c s ih =>
    by_cases hc : c = '\\' ∨ c = '\''
    · rw [escape_special hc, List.cons_append, List.cons_append, scanInside, if_pos hc, ih]
      rfl
    · rw [escape_plain hc, List.cons_append, scanInside_plain (mt .inr hc) (mt .inl hc), ih]
      rfl

theorem scanQuoted_quote (s rest : List Char) : scanQuoted (quote s ++ rest) = some (s, rest) := by
  rw [quote, List.append_assoc]
  exact scanInside_escape s rest

theorem suffix_of_scanInside {text s rest : List Char} (h : scanInside text = some (s, rest)) :
    rest <:+ text := by
  fun_induction scanInside text generalizing s with
  | case1 => cases h
  | case2 rest' =>
    simp only [Option.some.injEq, Prod.mk.injEq] at h
    rw [← h.2]
    exact List.suffix_cons _ _
  | case3 c rest' hc ih =>
    obtain ⟨⟨s', t'⟩, hscan, he⟩ := Option.map_eq_some_iff.1 h
    simp only [Prod.mk.injEq] at he
    obtain ⟨-, rfl⟩ := he
    exact (ih hscan).trans ⟨['\\', c], rfl⟩
  | case4 c rest' hc ih =>
    obtain ⟨⟨s', t'⟩, hscan, he⟩ := Option.map_eq_some_iff.1 h
    simp only [Prod.mk.injEq] at he
    obtain ⟨-, rfl⟩ := he
    exact (ih hscan).trans (List.suffix_cons _ _)
  | case5 c rest' hquote hslash ih =>
    obtain ⟨⟨s', t'⟩, hscan, he⟩ := Option.map_eq_some_iff.1 h
    simp only [Prod.mk.injEq] at he
    obtain ⟨-, rfl⟩ := he
    exact (ih hscan).trans (List.suffix_cons _ _)

/-- A string that needs no escape is read where it stands as it is. -/
theorem eq_of_scanInside {text s rest : List Char} (h : scanInside text = some (s, rest))
    (hs : ∀ c ∈ s, c ≠ '\\' ∧ c ≠ '\'') : text = s ++ '\'' :: rest := by
  fun_induction scanInside text generalizing s with
  | case1 => cases h
  | case2 rest' =>
    simp only [Option.some.injEq, Prod.mk.injEq] at h
    obtain ⟨rfl, rfl⟩ := h
    rfl
  | case3 c rest' hc ih =>
    obtain ⟨⟨s', t'⟩, -, he⟩ := Option.map_eq_some_iff.1 h
    simp only [Prod.mk.injEq] at he
    obtain ⟨rfl, -⟩ := he
    obtain ⟨hslash, hquote⟩ := hs c List.mem_cons_self
    exact absurd hc (not_or.2 ⟨hslash, hquote⟩)
  | case4 c rest' hc ih =>
    obtain ⟨⟨s', t'⟩, -, he⟩ := Option.map_eq_some_iff.1 h
    simp only [Prod.mk.injEq] at he
    obtain ⟨rfl, -⟩ := he
    exact absurd rfl (hs '\\' List.mem_cons_self).1
  | case5 c rest' hquote hslash ih =>
    obtain ⟨⟨s', t'⟩, hscan, he⟩ := Option.map_eq_some_iff.1 h
    simp only [Prod.mk.injEq] at he
    obtain ⟨rfl, rfl⟩ := he
    rw [List.forall_mem_cons] at hs
    rw [ih hscan hs.2, List.cons_append]

theorem of_scanQuoted {text s rest : List Char} (h : scanQuoted text = some (s, rest)) :
    ∃ inside, text = '\'' :: inside ∧ scanInside inside = some (s, rest) := by
  unfold scanQuoted at h
  split at h
  · exact ⟨_, rfl, h⟩
  · cases h

/-! ## Strings at their places -/

/-- A string with the code before and after it. -/
structure Quotation where
  before : String
  string : String
  after : String
  /-- Whether it stands in a body that is cut into lines. -/
  cut : Bool
  deriving DecidableEq, Repr

/-- The scanner reads the strings of quotations one after the other, each between the code of the
quotation. -/
inductive Reads : List Quotation → List Char → Prop where
  | nil (text : List Char) : Reads [] text
  | cons {q : Quotation} {later : List Quotation} {text rest : List Char} (code : List Char) :
      scanQuoted text = some (q.string.toList, q.after.toList ++ rest) →
      Reads later (q.after.toList ++ rest) → Reads (q :: later) (code ++ q.before.toList ++ text)

/-- The strings of quotations stand one after the other between quotes. -/
inductive Written : List Quotation → List Char → Prop where
  | nil (text : List Char) : Written [] text
  | cons {q : Quotation} {later : List Quotation} {rest : List Char} (code : List Char) :
      Written later (q.after.toList ++ rest) →
      Written (q :: later)
        (code ++ q.before.toList ++ (quote q.string.toList ++ (q.after.toList ++ rest)))

theorem Written.reads {qs : List Quotation} {text : List Char} (h : Written qs text) :
    Reads qs text := by
  induction h with
  | nil text => exact .nil text
  | cons code _ ih => exact .cons code (scanQuoted_quote _ _) ih

/-- The string of a quotation that is read stands in the text, if it needs no escape. -/
theorem Reads.infix_of_mem {qs : List Quotation} {text : List Char} (h : Reads qs text)
    {q : Quotation} (hq : q ∈ qs) (hplain : ∀ c ∈ q.string.toList, c ≠ '\\' ∧ c ≠ '\'') :
    q.string.toList <:+: text := by
  induction h with
  | nil => cases hq
  | @cons first later text rest code hscan _ ih =>
    have hsuffix : text <:+ code ++ first.before.toList ++ text := List.suffix_append _ _
    obtain ⟨inside, rfl, hscan⟩ := of_scanQuoted hscan
    rcases List.mem_cons.1 hq with rfl | hq
    · refine List.IsInfix.trans ?_ hsuffix.isInfix
      rw [eq_of_scanInside hscan hplain]
      exact ⟨['\''], '\'' :: (q.after.toList ++ rest), by simp⟩
    · have hrest := (suffix_of_scanInside hscan).trans (List.suffix_cons '\'' inside)
      exact (ih hq).trans (hrest.trans hsuffix).isInfix

namespace Written

variable {qs qs' : List Quotation} {s t : List Char}

theorem code (c : List Char) (h : Written qs t) : Written qs (c ++ t) := by
  cases h with
  | nil => exact .nil _
  | cons code h =>
    simp only [← List.append_assoc c]
    exact .cons (c ++ code) h

theorem append (hs : Written qs s) (ht : Written qs' t) : Written (qs ++ qs') (s ++ t) := by
  induction hs with
  | nil s => exact ht.code s
  | @cons q later rest code _ ih =>
    rw [List.append_assoc] at ih
    have h := Written.cons code ih
    simpa only [List.cons_append, List.append_assoc] using h

theorem followed (h : Written qs s) (c : List Char) : Written qs (s ++ c) := by
  have h' := h.append (.nil c)
  rwa [List.append_nil] at h'

/-- Parts in a row, each with the quotations of its item. -/
theorem flatten {α : Type} {f : α → List Quotation} {items : List α} {parts : List (List Char)}
    (h : List.Forall₂ (fun a part => Written (f a) part) items parts) :
    Written (items.flatMap f) parts.flatten := by
  induction h with
  | nil => exact .nil _
  | cons hpart _ ih => exact hpart.append ih

/-- Parts between separators. What ends a separator may belong to the quotations of the next part,
and stands before the first part as well. -/
theorem intercalate {α : Type} {f : α → List Quotation} {items : List α}
    {parts : List (List Char)} (stop lead : List Char)
    (h : List.Forall₂ (fun a part => Written (f a) (lead ++ part)) items parts) :
    Written (items.flatMap f) (lead ++ (stop ++ lead).intercalate parts) := by
  induction h with
  | nil => exact .nil _
  | cons hpart hrest ih =>
    cases hrest with
    | nil => simpa using hpart
    | cons =>
      have h' := hpart.append (ih.code stop)
      simpa [List.intercalate, List.append_assoc] using h'

theorem separated {α : Type} {f : α → List Quotation} {items : List α}
    {parts : List (List Char)} (stop : List Char)
    (h : List.Forall₂ (fun a part => Written (f a) part) items parts) :
    Written (items.flatMap f) (stop.intercalate parts) := by
  have h' := intercalate stop [] h
  rwa [List.append_nil, List.nil_append] at h'

end Written

end TableClasses.Code

namespace TableClasses.Classes

open TableClasses.Text TableClasses.Code TableClasses.ValueObject

/-! ## Strings in expressions -/

/-- A string between its quotes, with the code next to it. -/
theorem written_quoteString (q : Quotation) :
    Written [q] (q.before ++ quoteString q.string ++ q.after).toList := by
  have h : Written [q] _ := .cons [] (.nil (q.after.toList ++ []))
  simpa [quoteString] using h

theorem written_entry {array before : String} (h : "$" ++ array ++ "[" = before) (key : String)
    (cut : Bool) :
    Written [{ before, string := key, after := "]", cut }]
      (Expression.entry array key).text.toList := by
  rw [Expression.text_entry, h]
  exact written_quoteString _

/-- The name of a column as the key of a row; it is read twice where the entry may be missing. -/
def rowQuotations (cut : Bool) (c : Column) : List Quotation :=
  let key : Quotation := { before := "$row[", string := c.name, after := "]", cut }
  if c.nullable then [key, key] else [key]

/-- The format in the code that turns a date into a text. -/
def formatQuotations (format : String) (c : Column) : List Quotation :=
  if c.valueObject = none ∧ c.scalar = .datetime then
    [{ before := "->format(", string := format, after := ")", cut := true }]
  else []

section
variable {qs : List Quotation} {value : Expression}

theorem written_callText (h : Written qs value.text.toList) (call : MethodCall)
    (classRef : String) : Written qs (Mapping.callText call classRef value.text).toList := by
  unfold Mapping.callText
  split
  · simp only [String.toList_append]
    exact (h.code _).followed _
  · simp only [String.toList_append]
    exact ((h.followed _).followed _).followed _

/-- Converting a value keeps the strings in its code. -/
theorem lasting_written_fromRaw (h : Written qs value.text.toList) (c : Column) :
    Lasting (fromRaw c value) fun _ e => Written qs e.text.toList := by
  unfold fromRaw
  cases c.valueObject with
  | some m =>
    refine (lasting_callReference m.className m.fromRaw).bind fun ref => .pure fun _ _ => ?_
    exact written_callText h m.fromRaw ref
  | none =>
    refine .pure fun _ => ?_
    cases c.scalar with
    | json =>
      simp only [Expression.text_decodeJson, String.toList_append]
      exact (h.code _).followed _
    | datetime =>
      simp only [Expression.text_makeDate, String.toList_append]
      exact (h.code _).followed _
    | _ =>
      simp only [Scalar.cast?, Expression.text_cast, String.toList_append]
      exact h.code _

theorem lasting_written_hydrate (cut : Bool) (c : Column) :
    Lasting (hydrate c) fun _ e => Written (rowQuotations cut c) e.text.toList := by
  have hkey := written_entry (by decide : "$" ++ "row" ++ "[" = "$row[") c.name cut
  unfold hydrate rowQuotations
  refine (lasting_written_fromRaw hkey c).bind fun value => .pure fun _ hvalue => ?_
  split
  · simp only [Expression.text_ifSet, String.toList_append]
    exact (((hkey.code _).followed _).append hvalue).followed _
  · exact hvalue

theorem lasting_written_toRaw? (format : String) (c : Column) (value : Expression) :
    Lasting (toRaw? format c value) fun _ e? =>
      Written (formatQuotations format c) (e?.getD value).text.toList := by
  unfold toRaw? formatQuotations
  cases c.valueObject with
  | some m =>
    refine (lasting_callReference m.className m.toRaw).bind fun ref => .pure fun _ _ => ?_
    rw [if_neg (by simp)]
    exact .nil _
  | none =>
    refine .pure fun _ => ?_
    cases c.scalar with
    | datetime =>
      have hformat := written_quoteString
        { before := "->format(", string := format, after := ")", cut := true }
      simp only [Option.getD_some, Expression.text_formatDate]
      simpa [String.append_assoc] using hformat.code value.text.toList
    | _ =>
      rw [if_neg (by simp)]
      exact .nil _

theorem lasting_written_dehydrate (format : String) (c : Column) :
    Lasting (dehydrate format c) fun _ e =>
      Written (formatQuotations format c) e.text.toList := by
  unfold dehydrate
  refine (lasting_written_toRaw? format c _).bind fun converted => ?_
  cases converted with
  | none => exact .pure fun _ h => h
  | some converted =>
    refine .pure fun _ h => ?_
    split
    · simp only [Expression.text_unlessNull, String.toList_append]
      exact h.code _
    · exact h

end

end TableClasses.Classes
