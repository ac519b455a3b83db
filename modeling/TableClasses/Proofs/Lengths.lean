import TableClasses.Proofs.ClassNames
import TableClasses.Proofs.ColumnFacts
import TableClasses.Proofs.Constants
import TableClasses.Proofs.Readers

/-!
# Greatest lengths

The greatest length of a column may be written as a number or as the text of one. Where a document
has the digits of a number, they are read as this number if 64 bits hold it, and then cut off at 32
bits; beyond that they are read as a binary fraction, if at all, which is no length. A text is a
length only if 32 bits hold its number. So both ways give one length up to 32 bits and not beyond.
-/

namespace TableClasses

open TableClasses.Decimal

theorem toList_toString (n : Nat) : (toString n).toList = Nat.toDigits 10 n := by
  rw [Nat.toString_eq_repr, Nat.toList_repr]

theorem digitsValue_toDigits (n : Nat) : digitsValue 0 (Nat.toDigits 10 n) = n :=
  Nat.ofDigitChars_toDigits (by decide) (by decide)

/-! ## Digits in a document -/

namespace Json

/-- Somewhere in a document the digits of `n` are read as this number. -/
def ReadFrom (n : Nat) (x : Number) : Prop :=
  ∃ rest, readNumber ((toString n).toList ++ rest) = some (x, rest)

theorem head_toDigits_ne {c : Char} (h : c.isDigit = false) (n : Nat) :
    ∀ d ∈ (Nat.toDigits 10 n).head?, (d == c) = false := by
  intro d hd
  rw [beq_eq_false_iff_ne]
  rintro rfl
  rw [isDigit_toDigits n d (List.mem_of_head? hd)] at h
  cases h

/-- A number does not begin with a zero unless it is one. -/
theorem noLeadingZero_toDigits (n : Nat) :
    (!(Nat.toDigits 10 n).isEmpty
      && ((Nat.toDigits 10 n).length == 1 || (Nat.toDigits 10 n).head? != some '0')) = true := by
  have hne : (Nat.toDigits 10 n).isEmpty = false :=
    List.isEmpty_eq_false_iff.2 Nat.toDigits_ne_nil
  rw [hne, Bool.not_false, Bool.true_and, Bool.or_eq_true, bne_iff_ne]
  by_cases hn : n = 0
  · subst hn
    exact .inl (by decide)
  · exact .inr fun hhead => hn (Code.head?_toDigits hhead)

theorem readNumber_toDigits (n : Nat) :
    readNumber (Nat.toDigits 10 n)
      = (numberOf? false (Nat.toDigits 10 n) none none).map fun x => (x, []) := by
  have hminus : Reader.minus (Nat.toDigits 10 n) = some (false, Nat.toDigits 10 n) := by
    unfold Reader.minus Reader.next
    rw [after_of_not_head (head_toDigits_ne (by decide) n)]
    rfl
  have hdigits : Reader.digits (Nat.toDigits 10 n) = some (Nat.toDigits 10 n, []) := by
    rw [Reader.digits, List.takeWhile_eq_self_iff.2 (isDigit_toDigits n),
      List.dropWhile_eq_nil_iff.2 (isDigit_toDigits n)]
  rw [readNumber_eq]
  simp only [Reader.next, hminus, hdigits, noLeadingZero_toDigits, Option.bind_some, guard, if_true]
  show ((numberOf? false (Nat.toDigits 10 n) none none).bind fun x => some (x, [])) = _
  cases numberOf? false (Nat.toDigits 10 n) none none <;> rfl

theorem readFrom_iff {n : Nat} {x : Number} :
    ReadFrom n x ↔ numberOf? false (Nat.toDigits 10 n) none none = some x := by
  have halone : readNumber (Nat.toDigits 10 n) = some (x, []) ↔
      numberOf? false (Nat.toDigits 10 n) none none = some x := by
    rw [readNumber_toDigits, Option.map_eq_some_iff]
    simp
  rw [← halone]
  unfold ReadFrom
  rw [toList_toString]
  constructor
  · rintro ⟨rest, hread⟩
    -- what is read does not depend on what follows
    obtain ⟨p, hp, -, htakes⟩ := local_readNumber hread
    obtain rfl := List.append_cancel_right hp
    have hnone := htakes [] List.nil_prefix
    rwa [List.append_nil] at hnone
  · intro hread
    exact ⟨[], by rwa [List.append_nil]⟩

theorem readFrom_of_lt {n : Nat} (h : n < bound 64) : ReadFrom n (.int n) := by
  rw [readFrom_iff]
  unfold numberOf?
  rw [digitsValue_toDigits]
  simp [keepsWhole, h]

theorem ReadFrom.eq_int {n : Nat} {x : Number} (hx : ReadFrom n x) (h : n < bound 64) :
    x = .int n :=
  Option.some.inj ((readFrom_iff.1 hx).symm.trans (readFrom_iff.1 (readFrom_of_lt h)))

theorem ReadFrom.exists_float {n : Nat} {x : Number} (hx : ReadFrom n x) (h : bound 64 ≤ n) :
    ∃ y, x = .float y := by
  have hwide : keepsWhole false n = false := by
    simp [keepsWhole, h]
  rw [readFrom_iff] at hx
  unfold numberOf? at hx
  simp only [digitsValue_toDigits, hwide, Bool.and_false, Bool.false_eq_true, if_false] at hx
  obtain ⟨y, -, rfl⟩ := Option.map_eq_some_iff.1 hx
  exact ⟨y, rfl⟩

end Json

/-! ## Lengths in digits -/

namespace Schema

open TableClasses.Text TableClasses.ValueObject

theorem bound_values : bound 32 = 4294967296 ∧ bound 64 = 18446744073709551616 ∧
    lengthLimit = 4294967295 := by
  decide

theorem nat32Of?_toString (n : Nat) :
    nat32Of? (toString n) = if n < bound 32 then some n else none := by
  unfold nat32Of?
  dsimp only
  split
  · next rest hdigits =>
    rw [toList_toString] at hdigits
    have hplus := Json.head_toDigits_ne (c := '+') (by decide) n '+' (by rw [hdigits]; rfl)
    cases hplus
  · rw [toList_toString, natOf?_toDigits, Option.filter_some]
    simp

theorem trimBlanks_toString (n : Nat) : trimBlanks (toString n) = toString n := by
  have hfree : ∀ c ∈ (toString n).toList, isBlank c = false := by
    rw [toList_toString]
    exact fun c hc => Json.plain_of_isDigit (isDigit_toDigits n c hc)
  rw [trimBlanks, onChars, trim_of_free hfree, String.ofList_toList]

theorem lengthOf_text (n : Nat) :
    lengthOf (.string (toString n)) = if n < bound 32 then n else 0 := by
  show (nat32Of? (trimBlanks (toString n))).getD 0 = _
  rw [trimBlanks_toString, nat32Of?_toString]
  split <;> rfl

theorem lengthOf_digits {n : Nat} {x : Number} (hx : Json.ReadFrom n x) :
    lengthOf (.number x) = if n < bound 64 then min n lengthLimit else 0 := by
  split
  · next h =>
    rw [hx.eq_int h]
    rfl
  · next h =>
    obtain ⟨y, rfl⟩ := hx.exists_float (Nat.not_lt.1 h)
    rfl

section
variable {overlay : Option Overlay} {m : Mapper} {doc : Json} {w : Warned (List Table × Mapper)}

/-- Of every column of a document, in either shape: its greatest length is the number of its record,
cut off at 32 bits, where this is written in digits and 64 bits hold it, or as a text and 32 bits
hold it; otherwise it has none. -/
theorem maxLength_iff (h : normalize overlay m doc = .ok w) {t : Table} (ht : t ∈ w.value.1) :
    ∃ visits, BuiltFrom overlay m doc t visits ∧
      ∀ v ∈ visits, ∀ c, v.column? overlay m t.name = some c → ∀ n : Nat,
        (∀ x, Json.ReadFrom n x → v.Gives .maxLength (.number x) →
          (c.maxLength = min n lengthLimit ↔ n < bound 64) ∧
            (bound 64 ≤ n → c.maxLength = 0)) ∧
        (v.Gives .maxLength (.string (toString n)) →
          (c.maxLength = min n lengthLimit ↔ n < bound 32) ∧
            (bound 32 ≤ n → c.maxLength = 0)) := by
  obtain ⟨visits, hbuilt⟩ := exists_builtFrom h ht
  obtain ⟨hbound32, hbound64, hlimit⟩ := bound_values
  refine ⟨visits, hbuilt, fun v _ c hc n => ⟨fun x hx hgives => ?_, fun hgives => ?_⟩⟩
  · rw [Visit.maxLength_eq hc hgives, lengthOf_digits hx, hbound64, hlimit]
    split <;> omega
  · rw [Visit.maxLength_eq hc hgives, lengthOf_text, hbound32, hlimit]
    split <;> omega

end

/-- A grouped document with a length that 32 bits do not hold and with one in a text. -/
def postDocument : Json :=
  .object
    [("databaseTable", .string "posts"),
     ("databaseCols", .object
       [("ro", .object
          [("body", .object
             [("type", .string "text"), ("maxLength", .number (.int 5000000000))])]),
        ("rw", .object
          [("title", .object
             [("type", .string "varchar"), ("maxLength", .string "255")])])])]

theorem maxLength_postDocument :
    ∃ w t visits, normalize none (.ofCatalog []) postDocument = .ok w ∧ t ∈ w.value.1 ∧
      BuiltFrom none (.ofCatalog []) postDocument t visits ∧
      (∃ v ∈ visits, ∃ c, v.column? none (.ofCatalog []) t.name = some c ∧ c.name = "body" ∧
        Json.ReadFrom 5000000000 (.int 5000000000) ∧
        v.Gives .maxLength (.number (.int 5000000000)) ∧ c.maxLength = lengthLimit) ∧
      ∃ v ∈ visits, ∃ c, v.column? none (.ofCatalog []) t.name = some c ∧ c.name = "title" ∧
        v.Gives .maxLength (.string (toString 255)) ∧ c.maxLength = 255 := by
  have hread : Json.ReadFrom 5000000000 (.int 5000000000) :=
    Json.readFrom_of_lt (by rw [bound_values.2.1]; decide)
  obtain ⟨w, hw, hone⟩ : ∃ w, normalize none (.ofCatalog []) postDocument = .ok w ∧
      w.value.1.map (·.name) = ["posts"] := ⟨_, rfl, by decide⟩
  obtain ⟨t, ht, hname⟩ := List.mem_map.1 (hone ▸ List.mem_singleton_self "posts")
  obtain ⟨visits, hbuilt, hlength⟩ := maxLength_iff hw ht
  obtain ⟨root, hroot, hvisits⟩ := hbuilt.visited
  cases hroot
  obtain ⟨-, rfl⟩ := Prod.mk.inj (List.mem_singleton.1 hvisits)
  refine ⟨w, t, _, hw, ht, hbuilt, ⟨_, .head _, ?_⟩, ⟨_, .tail _ (.head _), ?_⟩⟩
  · refine ⟨_, rfl, rfl, hread, ⟨_, rfl, rfl⟩, ?_⟩
    exact ((hlength _ (.head _) _ rfl _).1 _ hread ⟨_, rfl, rfl⟩).1.2
      (by rw [bound_values.2.1]; decide)
  · refine ⟨_, rfl, rfl, ⟨_, rfl, rfl⟩, ?_⟩
    exact ((hlength _ (.tail _ (.head _)) _ rfl 255).2 ⟨_, rfl, rfl⟩).1.2
      (by rw [bound_values.1]; decide)

/-- A catalog with one length in both notations. -/
def wideCatalog : Json :=
  .object
    [("files", .object
       [("columns", .object
          [("inDigits", .object
             [("DATA_TYPE", .string "longtext"),
              ("CHARACTER_MAXIMUM_LENGTH", .number (.int 4294967296))]),
           ("inText", .object
             [("DATA_TYPE", .string "longtext"),
              ("CHARACTER_MAXIMUM_LENGTH", .string "4294967296")])])])]

/-- The digits are cut off, and the text is no length. -/
theorem wideCatalog_lengths :
    ∃ w, normalize none (.ofCatalog []) wideCatalog = .ok w ∧
      w.value.1.flatMap (fun t => t.columns.map fun c => (c.name, c.maxLength))
        = [("inDigits", lengthLimit), ("inText", 0)] :=
  ⟨_, rfl, by decide⟩

end Schema

end TableClasses
