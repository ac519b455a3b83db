import Mathlib.Data.List.Nodup
import TableClasses.Code.Imports

/-!
# References name their classes

`reserve` and `use` come in any order while a file is written, and the references that `use` gave
are read back when the file is complete. `Sound` is the invariant of the imports. `Grows` says what
may change between two moments: names are added, and no import takes a short name that was given
away before. `Binds` ties a reference to its class; it holds when `use` answers, is kept while the
imports grow, and makes `resolve` give the class back.
-/

namespace TableClasses.Code

open TableClasses.Text

/-- The form under which a class name's last segment is given away. -/
def nameKey (className : String) : String := asciiLower (shortName className)

/-! ## Qualified names -/

/-- A class name without leading backslashes, cut at its last backslash. -/
structure Cut (name : String) (qualifier last : List Char) : Prop where
  trimmed : trimLeadingBackslashes name = name
  split : splitLast? isBackslash name.toList = some (qualifier, last)

theorem trimLeadingBackslashes_idem (f : String) :
    trimLeadingBackslashes (trimLeadingBackslashes f) = trimLeadingBackslashes f := by
  simp [trimLeadingBackslashes, onChars]

theorem trimStart_toList {name : String} (h : trimLeadingBackslashes name = name) :
    trimStart isBackslash name.toList = name.toList := by
  simpa [trimLeadingBackslashes] using congrArg String.toList h

namespace Cut

variable {name : String} {qualifier last : List Char}

theorem toList_eq (h : Cut name qualifier last) :
    name.toList = qualifier ++ '\\' :: last ∧ '\\' ∉ last := by
  obtain ⟨c, hc, hs, hlast⟩ := of_splitLast? h.split
  obtain rfl : c = '\\' := by simpa [isBackslash] using hc
  refine ⟨hs, fun hm => ?_⟩
  have := hlast _ hm
  simp [isBackslash] at this

theorem qualifier_ne_nil (h : Cut name qualifier last) : qualifier ≠ [] := by
  rintro rfl
  have hs := trimStart_toList h.trimmed
  rw [h.toList_eq.1] at hs
  have := not_of_head_trimStart _ hs
  simp [isBackslash] at this

theorem shortName_eq (h : Cut name qualifier last) : shortName name = String.ofList last := by
  simp only [shortName, onChars]
  rw [trimStart_toList h.trimmed, lastSegment, h.split]

theorem nameKey_eq (h : Cut name qualifier last) :
    nameKey name = asciiLower (String.ofList last) := by
  rw [nameKey, h.shortName_eq]

theorem qualifier_eq {q l : List Char} (h : Cut name qualifier last) (h' : Cut name q l) :
    qualifier = q := by
  have := h.split.symm.trans h'.split
  simp only [Option.some.injEq, Prod.mk.injEq] at this
  exact this.1

theorem name_eq (h : Cut name qualifier last) :
    name = String.ofList qualifier ++ "\\" ++ String.ofList last := by
  apply String.toList_injective
  simp [h.toList_eq.1]

end Cut

namespace Imports

/-! ## One call -/

/-- What a call of `use` does with the name of a class: its answer and the imports afterwards. -/
inductive Use (i : Imports) (name : String) : String → Imports → Prop where
  | unqualified : splitLast? isBackslash name.toList = none → Use i name (absolute name) i
  | known {q l : List Char} : Cut name q l → name ∈ i.uses → Use i name (String.ofList l) i
  /-- A class of the namespace whose short name an import has. -/
  | hidden {q l : List Char} {u : String} : Cut name q l → name ∉ i.uses →
      String.ofList q = i.name → u ∈ i.uses → nameKey u = nameKey name →
      Use i name (absolute name) i
  | own {q l : List Char} : Cut name q l → name ∉ i.uses → String.ofList q = i.name →
      (∀ u ∈ i.uses, nameKey u ≠ nameKey name) →
      Use i name (String.ofList l) (i.reserve (String.ofList l))
  | taken {q l : List Char} : Cut name q l → name ∉ i.uses → String.ofList q ≠ i.name →
      nameKey name ∈ i.taken → Use i name (absolute name) i
  | imported {q l : List Char} : Cut name q l → name ∉ i.uses → String.ofList q ≠ i.name →
      nameKey name ∉ i.taken →
      Use i name (String.ofList l)
        { i.reserve (String.ofList l) with uses := insertName name i.uses }

theorem use_spec (i : Imports) (f : String) :
    Use i (trimLeadingBackslashes f) (i.use f).1 (i.use f).2 := by
  simp only [use]
  split
  · next hs => exact .unqualified hs
  · next q l hs =>
    have hc : Cut (trimLeadingBackslashes f) q l := ⟨trimLeadingBackslashes_idem f, hs⟩
    split
    · next hm => exact .known hc hm
    · next hm =>
      split
      · next hq =>
        split
        · next hu =>
          obtain ⟨u, hu, hk⟩ := List.any_eq_true.1 hu
          exact .hidden hc hm hq hu (by rw [hc.nameKey_eq]; simpa [nameKey] using hk)
        · next hu =>
          refine .own hc hm hq fun u hu' hk => hu (List.any_eq_true.2 ⟨u, hu', ?_⟩)
          rw [hc.nameKey_eq] at hk
          simpa [nameKey] using hk
      · next hq =>
        rw [← hc.nameKey_eq]
        split
        · next ht => exact .taken hc hm hq ht
        · next ht => exact .imported hc hm hq ht

namespace Use

variable {i j : Imports} {name reference : String} {q l : List Char}

theorem eq_of_mem (h : Use i name reference j) (hc : Cut name q l) (hm : name ∈ i.uses) :
    reference = String.ofList l := by
  cases h with
  | unqualified hs => rw [hc.split] at hs; cases hs
  | known hc' _ => rw [← hc.shortName_eq, hc'.shortName_eq]
  | hidden _ hm' => exact absurd hm hm'
  | own _ hm' => exact absurd hm hm'
  | taken _ hm' => exact absurd hm hm'
  | imported _ hm' => exact absurd hm hm'

theorem eq_of_own (h : Use i name reference j) (hc : Cut name q l) (hm : name ∉ i.uses)
    (hq : String.ofList q = i.name) (hu : ∀ u ∈ i.uses, nameKey u ≠ nameKey name) :
    reference = String.ofList l := by
  cases h with
  | unqualified hs => rw [hc.split] at hs; cases hs
  | known _ hm' => exact absurd hm' hm
  | hidden _ _ _ hu' hk => exact absurd hk (hu _ hu')
  | own hc' => rw [← hc.shortName_eq, hc'.shortName_eq]
  | taken hc' _ hq' => exact absurd (hc.qualifier_eq hc' ▸ hq) hq'
  | imported hc' _ hq' => exact absurd (hc.qualifier_eq hc' ▸ hq) hq'

theorem eq_of_hidden (h : Use i name reference j) (hc : Cut name q l) (hm : name ∉ i.uses)
    (hq : String.ofList q = i.name) {u : String} (hu : u ∈ i.uses)
    (hk : nameKey u = nameKey name) : reference = absolute name := by
  cases h with
  | unqualified => rfl
  | known _ hm' => exact absurd hm' hm
  | hidden => rfl
  | own _ _ _ hu' => exact absurd hk (hu' _ hu)
  | taken => rfl
  | imported hc' _ hq' => exact absurd (hc.qualifier_eq hc' ▸ hq) hq'

theorem eq_of_taken (h : Use i name reference j) (hc : Cut name q l) (hm : name ∉ i.uses)
    (hq : String.ofList q ≠ i.name) (ht : nameKey name ∈ i.taken) : reference = absolute name := by
  cases h with
  | unqualified => rfl
  | known _ hm' => exact absurd hm' hm
  | hidden => rfl
  | own hc' _ hq' => exact absurd (hc'.qualifier_eq hc ▸ hq') hq
  | taken => rfl
  | imported _ _ _ ht' => exact absurd ht ht'

/-- A reference is made of characters of the name and a backslash. -/
theorem mem_of_mem (h : Use i name reference j) {c : Char} (hc : c ∈ reference.toList) :
    c = '\\' ∨ c ∈ name.toList := by
  have habsolute : c ∈ (absolute name).toList → c = '\\' ∨ c ∈ name.toList := by
    simp [absolute]
  have hlast : ∀ {q l : List Char}, Cut name q l → c ∈ (String.ofList l).toList →
      c = '\\' ∨ c ∈ name.toList := by
    intro q l hcut hm
    rw [String.toList_ofList] at hm
    rw [hcut.toList_eq.1]
    exact .inr (List.mem_append_right q (List.mem_cons_of_mem _ hm))
  cases h with
  | unqualified => exact habsolute hc
  | known hcut => exact hlast hcut hc
  | hidden => exact habsolute hc
  | own hcut => exact hlast hcut hc
  | taken => exact habsolute hc
  | imported hcut => exact hlast hcut hc

end Use

/-! ## Growth of the imports -/

/-- The invariant of imports: short names of imports are given away, and no two are the same. -/
structure Sound (i : Imports) : Prop where
  given : ∀ u ∈ i.uses, nameKey u ∈ i.taken
  apart : (i.uses.map nameKey).Nodup

/-- `j` comes after `i`: what was there stays, and no later import has a short name that was given
away before. -/
structure Grows (i j : Imports) : Prop where
  name : j.name = i.name
  uses : ∀ u ∈ i.uses, u ∈ j.uses
  taken : ∀ k ∈ i.taken, k ∈ j.taken
  fresh : ∀ u ∈ j.uses, u ∉ i.uses → nameKey u ∉ i.taken

theorem sound_ofName (name : String) : Sound (ofName name) :=
  ⟨fun _ hu => absurd hu List.not_mem_nil, List.nodup_nil⟩

theorem Grows.refl (i : Imports) : Grows i i :=
  ⟨rfl, fun _ h => h, fun _ h => h, fun _ h hn => absurd h hn⟩

theorem Grows.trans {i j k : Imports} (h1 : Grows i j) (h2 : Grows j k) : Grows i k where
  name := h2.name.trans h1.name
  uses u hu := h2.uses u (h1.uses u hu)
  taken u hu := h2.taken u (h1.taken u hu)
  fresh u hu hn ht := by
    by_cases hj : u ∈ j.uses
    · exact h1.fresh u hj hn ht
    · exact h2.fresh u hu hj (h1.taken _ ht)

theorem Grows.reserve (i : Imports) (short : String) : Grows i (i.reserve short) :=
  ⟨rfl, fun _ h => h, fun _ h => List.mem_cons_of_mem _ h, fun _ h hn => absurd h hn⟩

theorem Sound.reserve {i : Imports} (h : Sound i) (short : String) : Sound (i.reserve short) :=
  ⟨fun u hu => List.mem_cons_of_mem _ (h.given u hu), h.apart⟩

namespace Use

variable {i j : Imports} {name reference : String}

theorem grows (h : Use i name reference j) : Grows i j := by
  cases h with
  | unqualified => exact .refl i
  | known => exact .refl i
  | hidden => exact .refl i
  | own => exact .reserve i _
  | taken => exact .refl i
  | imported hc _ _ ht =>
    refine ⟨rfl, fun u hu => mem_insertName.2 (.inr hu), fun k hk => List.mem_cons_of_mem _ hk, ?_⟩
    intro u hu hn
    obtain rfl | hu := mem_insertName.1 hu
    · exact ht
    · exact absurd hu hn

theorem sound (h : Use i name reference j) (hi : Sound i) : Sound j := by
  cases h with
  | unqualified => exact hi
  | known => exact hi
  | hidden => exact hi
  | own => exact hi.reserve _
  | taken => exact hi
  | imported hc _ _ ht =>
    refine ⟨?_, ?_⟩
    · intro u hu
      obtain rfl | hu := mem_insertName.1 hu
      · rw [hc.nameKey_eq]
        exact List.mem_cons_self
      · exact List.mem_cons_of_mem _ (hi.given u hu)
    · rw [((insertName_perm _ _).map nameKey).nodup_iff, List.map_cons, List.nodup_cons]
      refine ⟨fun hk => ht ?_, hi.apart⟩
      obtain ⟨u, hu, hk⟩ := List.mem_map.1 hk
      rw [← hk]
      exact hi.given u hu

end Use

/-! ## References -/

/-- A reference stands for a class, now and after any growth of the imports. -/
inductive Binds (i : Imports) : String → String → Prop where
  | absolute (name : String) : Binds i (absolute name) name
  | imported {name : String} {q l : List Char} : Cut name q l → name ∈ i.uses →
      Binds i (String.ofList l) name
  /-- A class of the namespace whose short name no import can take any more. -/
  | own {name : String} {q l : List Char} : Cut name q l → String.ofList q = i.name →
      nameKey name ∈ i.taken → (∀ u ∈ i.uses, nameKey u ≠ nameKey name) →
      Binds i (String.ofList l) name

theorem Use.binds {i j : Imports} {name reference : String} (h : Use i name reference j) :
    Binds j reference name := by
  cases h with
  | unqualified => exact .absolute name
  | known hc hm => exact .imported hc hm
  | hidden => exact .absolute name
  | own hc _ hq hu =>
    refine .own hc hq ?_ hu
    rw [hc.nameKey_eq]
    exact List.mem_cons_self
  | taken => exact .absolute name
  | imported hc => exact .imported hc (mem_insertName.2 (.inl rfl))

theorem Binds.mono {i j : Imports} {reference name : String} (h : Binds i reference name)
    (hg : Grows i j) : Binds j reference name := by
  cases h with
  | absolute => exact .absolute name
  | imported hc hm => exact .imported hc (hg.uses _ hm)
  | own hc hq ht hu =>
    refine .own hc (hg.name ▸ hq) (hg.taken _ ht) fun u hu' hk => ?_
    by_cases hi : u ∈ i.uses
    · exact hu u hi hk
    · refine hg.fresh u hu' hi ?_
      rw [hk]
      exact ht

theorem resolve_absolute (i : Imports) (name : String) : i.resolve (absolute name) = name := by
  have h : (absolute name).toList = '\\' :: name.toList := by simp [absolute]
  rw [resolve, h]
  exact String.ofList_toList

/-- A reference without a backslash is looked up among the imports. -/
theorem resolve_of_not_mem (i : Imports) {l : List Char} (h : '\\' ∉ l) :
    i.resolve (String.ofList l) =
      match i.uses.find? fun u => nameKey u == asciiLower (String.ofList l) with
      | some u => u
      | none => if i.name = "" then String.ofList l else i.name ++ "\\" ++ String.ofList l := by
  rw [resolve, String.toList_ofList]
  split
  · exact absurd List.mem_cons_self h
  · rfl

theorem find?_nameKey_of_mem {i : Imports} (hi : Sound i) {name : String} (hm : name ∈ i.uses) :
    i.uses.find? (fun u => nameKey u == nameKey name) = some name := by
  cases hf : i.uses.find? fun u => nameKey u == nameKey name with
  | none =>
    have := List.find?_eq_none.1 hf name hm
    simp at this
  | some u =>
    have hk : nameKey u = nameKey name := by simpa using List.find?_some hf
    rw [List.inj_on_of_nodup_map hi.apart (List.mem_of_find?_eq_some hf) hm hk]

theorem Binds.resolve_eq {i : Imports} {reference name : String} (h : Binds i reference name)
    (hi : Sound i) : i.resolve reference = name := by
  cases h with
  | absolute => exact resolve_absolute i name
  | imported hc hm =>
    rw [resolve_of_not_mem i hc.toList_eq.2, ← hc.nameKey_eq, find?_nameKey_of_mem hi hm]
  | @own _ q l hc hq ht hu =>
    have hfind : i.uses.find? (fun u => nameKey u == nameKey name) = none := by
      rw [List.find?_eq_none]
      intro u hm
      simpa using hu u hm
    have hname : i.name ≠ "" := by
      rw [← hq, Ne, String.ofList_eq_empty_iff]
      exact hc.qualifier_ne_nil
    rw [resolve_of_not_mem i hc.toList_eq.2, ← hc.nameKey_eq, hfind]
    simp only [if_neg hname]
    rw [← hq, ← hc.name_eq]

/-! ## Runs of calls -/

/-- A call on the imports of a file. -/
inductive Call where
  | reserve (short : String)
  | use (className : String)
  deriving DecidableEq, Repr

def after (i : Imports) : Call → Imports
  | .reserve short => i.reserve short
  | .use className => (i.use className).2

/-- The imports after calls in order. -/
def run (i : Imports) (calls : List Call) : Imports := calls.foldl after i

theorem run_use (i : Imports) (f : String) (calls : List Call) :
    i.run (.use f :: calls) = (i.use f).2.run calls := rfl

theorem run_reserve (i : Imports) (short : String) (calls : List Call) :
    i.run (.reserve short :: calls) = (i.reserve short).run calls := rfl

theorem run_append (i : Imports) (a b : List Call) : i.run (a ++ b) = (i.run a).run b :=
  List.foldl_append

theorem Grows.after (i : Imports) (c : Call) : Grows i (i.after c) := by
  cases c with
  | reserve short => exact .reserve i short
  | use f => exact (use_spec i f).grows

theorem Sound.after {i : Imports} (h : Sound i) (c : Call) : Sound (i.after c) := by
  cases c with
  | reserve short => exact h.reserve short
  | use f => exact (use_spec i f).sound h

theorem Grows.run (i : Imports) (calls : List Call) : Grows i (i.run calls) := by
  induction calls generalizing i with
  | nil => exact .refl i
  | cons c rest ih => exact (Grows.after i c).trans (ih _)

theorem Sound.run {i : Imports} (h : Sound i) (calls : List Call) : Sound (i.run calls) := by
  induction calls generalizing i with
  | nil => exact h
  | cons c rest ih => exact ih (h.after c)

/-- A reference still names its class when the imports have grown. -/
theorem resolve_use_of_grows {i k : Imports} (f : String) (hg : Grows (i.use f).2 k)
    (hk : Sound k) : k.resolve (i.use f).1 = trimLeadingBackslashes f :=
  ((use_spec i f).binds.mono hg).resolve_eq hk

/-- A class that is used again keeps its reference. -/
theorem Use.again {i j k k' : Imports} {name reference reference' : String}
    (h : Use i name reference j) (hi : Sound i) (hg : Grows j k)
    (h' : Use k name reference' k') : reference' = reference := by
  have absent : name ∉ j.uses → nameKey name ∈ j.taken → name ∉ k.uses :=
    fun hm ht hm' => hg.fresh name hm' hm ht
  cases h with
  | unqualified hsplit =>
    cases h' with
    | unqualified => rfl
    | hidden => rfl
    | taken => rfl
    | known hc => rw [hc.split] at hsplit; cases hsplit
    | own hc => rw [hc.split] at hsplit; cases hsplit
    | imported hc => rw [hc.split] at hsplit; cases hsplit
  | known hc hm => exact h'.eq_of_mem hc (hg.uses _ hm)
  | @hidden q l u hc hm hq hu hkey =>
    have ht : nameKey name ∈ i.taken := by
      rw [← hkey]
      exact hi.given u hu
    exact h'.eq_of_hidden hc (absent hm ht) (hq.trans hg.name.symm) (hg.uses _ hu) hkey
  | @own q l hc hm hq hu =>
    have ht : nameKey name ∈ (i.reserve (String.ofList l)).taken := by
      rw [hc.nameKey_eq]
      exact List.mem_cons_self
    refine h'.eq_of_own hc (absent hm ht) (hq.trans hg.name.symm) fun u hu' hkey => ?_
    by_cases hi' : u ∈ i.uses
    · exact hu u hi' hkey
    · refine hg.fresh u hu' hi' ?_
      rw [hkey]
      exact ht
  | taken hc hm hq ht =>
    exact h'.eq_of_taken hc (absent hm ht) (fun he => hq (he.trans hg.name)) (hg.taken _ ht)
  | imported hc => exact h'.eq_of_mem hc (hg.uses _ (mem_insertName.2 (.inl rfl)))

/-- However calls are interleaved, each reference names its class among the imports at the end, and
asking for the class again gives the same reference; the last segments of the imports differ, also
from every name that was reserved before the import. -/
theorem references_hold_after_run (name : String) (calls : List Call) :
    (∀ before f later, calls = before ++ .use f :: later →
      ((ofName name).run calls).resolve (((ofName name).run before).use f).1
          = trimLeadingBackslashes f ∧
        ∀ between rest, later = between ++ .use f :: rest →
          (((ofName name).run (before ++ .use f :: between)).use f).1
            = (((ofName name).run before).use f).1) ∧
    (((ofName name).run calls).uses.map fun u => asciiLower (shortName u)).Nodup ∧
    ∀ before short later, calls = before ++ .reserve short :: later →
      ∀ u ∈ ((ofName name).run calls).uses, u ∉ ((ofName name).run before).uses →
        asciiLower (shortName u) ≠ asciiLower short := by
  have hsound : ∀ cs, Sound ((ofName name).run cs) := (sound_ofName name).run
  refine ⟨?_, (hsound calls).apart, ?_⟩
  · rintro before f later rfl
    refine ⟨?_, ?_⟩
    · apply resolve_use_of_grows f ?_ (hsound _)
      rw [run_append, run_use]
      exact Grows.run _ later
    · rintro between rest -
      refine (use_spec _ f).again (hsound before) ?_ (use_spec _ f)
      rw [run_append, run_use]
      exact Grows.run _ between
  · rintro before short later rfl u hu hn hkey
    rw [run_append, run_reserve] at hu
    refine (Grows.run _ later).fresh u hu hn ?_
    rw [nameKey, hkey, reserve_taken]
    exact List.mem_cons_self

theorem references_hold_after_collisions :
    ((ofName "App").run [.reserve "Key", .use "A\\Row", .use "B\\Row", .use "A\\Row"]).resolve "Row"
        = "A\\Row" ∧
      (((ofName "App").run [.reserve "Key", .use "A\\Row", .use "B\\Row"]).use "A\\Row").1 = "Row" ∧
      asciiLower (shortName "A\\Row") ≠ asciiLower "Key" := by
  have h := references_hold_after_run "App"
    [.reserve "Key", .use "A\\Row", .use "B\\Row", .use "A\\Row"]
  refine ⟨?_, ?_, ?_⟩
  · exact (h.1 [.reserve "Key"] "A\\Row" _ rfl).1
  · exact (h.1 [.reserve "Key"] "A\\Row" _ rfl).2 [.use "B\\Row"] [] rfl
  · exact h.2.2 [] "Key" _ rfl "A\\Row" (by decide +kernel) (by decide +kernel)

end Imports

end TableClasses.Code
