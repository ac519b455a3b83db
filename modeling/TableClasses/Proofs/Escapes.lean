import TableClasses.Proofs.Quotations

/-!
# Escaped strings

Escaping is two replacements in a row, the second of them in what the first one gave: every backslash
is doubled, then every quote gets a backslash. They do not disturb each other, since the first one
makes no quotes and the second one leaves backslashes alone. What stands between the quotes tells by
itself where it ends, so that a literal can be read whatever code follows it.
-/

namespace TableClasses.Code

/-- A text for every occurrence of a character. -/
def replaceChar (c : Char) (text s : List Char) : List Char :=
  s.flatMap fun d => if d = c then text else [d]

theorem replaceChar_append (c : Char) (text s t : List Char) :
    replaceChar c text (s ++ t) = replaceChar c text s ++ replaceChar c text t :=
  List.flatMap_append

theorem replaceChar_cons_self (c : Char) (text s : List Char) :
    replaceChar c text (c :: s) = text ++ replaceChar c text s := by
  rw [replaceChar, List.flatMap_cons, if_pos rfl, ← replaceChar]

theorem replaceChar_cons_of_ne {c d : Char} (h : d ≠ c) (text s : List Char) :
    replaceChar c text (d :: s) = d :: replaceChar c text s := by
  rw [replaceChar, List.flatMap_cons, if_neg h, ← replaceChar, List.singleton_append]

/-- Doubled backslashes, and then quotes with a backslash before them. -/
def escapeInTurn (s : List Char) : List Char :=
  replaceChar '\'' ['\\', '\''] (replaceChar '\\' ['\\', '\\'] s)

theorem escape_eq_escapeInTurn (s : List Char) : escape s = escapeInTurn s := by
  have hne : '\\' ≠ '\'' := by decide
  induction s with
  | nil => rfl
  | cons c s ih =>
    unfold escapeInTurn at ih ⊢
    by_cases hslash : c = '\\'
    · rw [escape_special (.inl hslash), ih, hslash, replaceChar_cons_self, replaceChar_append,
        replaceChar_cons_of_ne hne, replaceChar_cons_of_ne hne]
      rfl
    · rw [replaceChar_cons_of_ne hslash]
      by_cases hquote : c = '\''
      · rw [escape_special (.inr hquote), ih, hquote, replaceChar_cons_self]
        rfl
      · rw [escape_plain (not_or.2 ⟨hslash, hquote⟩), ih, replaceChar_cons_of_ne hquote]

/-- The other way round the backslashes of the quotes are doubled, and the quotes end the string. -/
example : scanQuoted ('\'' :: replaceChar '\\' ['\\', '\\'] (replaceChar '\'' ['\\', '\''] ['\'', '!'])
    ++ ['\'']) = some (['\\'], ['!', '\'']) := by decide

theorem toList_text_string (s : String) : (Literal.string s).text.toList = quote s.toList :=
  String.toList_ofList

theorem scanQuoted_literal (s t : String) :
    scanQuoted ((Literal.string s).text ++ t).toList = some (s.toList, t.toList) := by
  rw [String.toList_append, toList_text_string, scanQuoted_quote]

/-- Of every string and every code after it: the literal is the string with its backslashes doubled
and then its quotes escaped, the scanner gives the string back and stops where the code begins, and
so no other string and code make the same text. -/
theorem literal_delimits_itself (s t : String) :
    (Literal.string s).text = String.ofList ('\'' :: escapeInTurn s.toList ++ ['\'']) ∧
    scanQuoted ((Literal.string s).text ++ t).toList = some (s.toList, t.toList) ∧
    ∀ s' t', (Literal.string s).text ++ t = (Literal.string s').text ++ t' → s = s' ∧ t = t' := by
  refine ⟨?_, scanQuoted_literal s t, fun s' t' h => ?_⟩
  · rw [← escape_eq_escapeInTurn]
    rfl
  · have hscan := scanQuoted_literal s' t'
    rw [← h, scanQuoted_literal] at hscan
    simp only [Option.some.injEq, Prod.mk.injEq, String.toList_inj] at hscan
    exact hscan

end TableClasses.Code
