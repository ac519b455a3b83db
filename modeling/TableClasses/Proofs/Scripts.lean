import TableClasses.Diff.Compact

/-!
# Scripts keep both lists

Whatever path the comparison takes, its script starts from the old list and ends with the new one:
each step cuts the lists in two and puts the scripts of the parts together. Making a script compact
moves one change at a time past its neighbours; scripts that are `Alike` have the same two sides,
and every move leaves a script alike to what it was. Equal lists give a script that changes nothing.
-/

namespace TableClasses.Diff

variable {α : Type}

namespace Script

/-- Scripts from the same list to the same list. -/
structure Alike (s t : Script α) : Prop where
  old : s.oldSide = t.oldSide
  new : s.newSide = t.newSide

namespace Alike

variable {s t u : Script α}

theorem refl (s : Script α) : s.Alike s := ⟨rfl, rfl⟩

theorem symm (h : s.Alike t) : t.Alike s := ⟨h.old.symm, h.new.symm⟩

theorem trans (h : s.Alike t) (h' : t.Alike u) : s.Alike u :=
  ⟨h.old.trans h'.old, h.new.trans h'.new⟩

theorem append {s' t' : Script α} (h : s.Alike t) (h' : s'.Alike t') :
    Script.Alike (s ++ s') (t ++ t') :=
  ⟨by rw [oldSide_append, oldSide_append, h.old, h'.old],
    by rw [newSide_append, newSide_append, h.new, h'.new]⟩

end Alike

/-- The script leads from the old list to the new one. -/
structure Turns (s : Script α) (old new : List α) : Prop where
  old : s.oldSide = old
  new : s.newSide = new

theorem Turns.append {s t : Script α} {old new old' new' : List α} (h : s.Turns old new)
    (h' : t.Turns old' new') : Script.Turns (s ++ t) (old ++ old') (new ++ new') :=
  ⟨by rw [oldSide_append, h.old, h'.old], by rw [newSide_append, h.new, h'.new]⟩

theorem Alike.turns {s t : Script α} {old new : List α} (h : s.Alike t) (ht : t.Turns old new) :
    s.Turns old new :=
  ⟨h.old.trans ht.old, h.new.trans ht.new⟩

end Script

open Script

/-! ## Comparing -/

theorem turns_keeping (l : List α) : (keeping l).Turns l l := by
  unfold keeping
  cases l <;> exact ⟨by simp [Edit.old], by simp [Edit.new]⟩

theorem turns_replacing (old new : List α) : (replacing old new).Turns old new := by
  unfold replacing
  cases old <;> cases new <;> exact ⟨by simp [Edit.old], by simp [Edit.new]⟩

section
variable [DecidableEq α]

theorem take_append_commonSuffix_left (as bs : List α) :
    as.take (as.length - (commonSuffix as bs).length) ++ commonSuffix as bs = as := by
  have h := congrArg List.reverse (commonPrefix_append_drop_left as.reverse bs.reverse)
  rw [List.reverse_append, List.reverse_reverse, List.drop_reverse, List.reverse_reverse] at h
  unfold commonSuffix
  rwa [List.length_reverse]

theorem take_append_commonSuffix_right (as bs : List α) :
    bs.take (bs.length - (commonSuffix as bs).length) ++ commonSuffix as bs = bs := by
  have h := congrArg List.reverse (commonPrefix_append_drop_right as.reverse bs.reverse)
  rw [List.reverse_append, List.reverse_reverse, List.drop_reverse, List.reverse_reverse] at h
  unfold commonSuffix
  rwa [List.length_reverse]

theorem turns_compareWithin (fuel : Nat) (old new : List α) :
    (compareWithin fuel old new).Turns old new := by
  induction fuel generalizing old new with
  | zero => exact turns_replacing old new
  | succ fuel ih =>
    have hold := commonPrefix_append_drop_left old new
    have hnew := commonPrefix_append_drop_right old new
    unfold compareWithin
    simp only
    generalize commonPrefix old new = front at hold hnew ⊢
    generalize old.drop front.length = old' at hold ⊢
    generalize new.drop front.length = new' at hnew ⊢
    have hold' := take_append_commonSuffix_left old' new'
    have hnew' := take_append_commonSuffix_right old' new'
    generalize commonSuffix old' new' = back at hold' hnew' ⊢
    generalize old'.take (old'.length - back.length) = a at hold' ⊢
    generalize new'.take (new'.length - back.length) = b at hnew' ⊢
    -- whatever the script of the middle is, all three parts together turn the old list to the new
    have hwhole : ∀ {middle : Script α}, middle.Turns a b →
        Script.Turns (keeping front ++ middle ++ keeping back) old new := by
      intro middle hmiddle
      have hparts := ((turns_keeping front).append hmiddle).append (turns_keeping back)
      rwa [List.append_assoc front a, List.append_assoc front b, hold', hnew', hold, hnew]
        at hparts
    split
    · exact hwhole (turns_replacing a b)
    · split
      · next x y _ =>
        have hhalves := (ih (a.take x) (b.take y)).append (ih (a.drop x) (b.drop y))
        rw [List.take_append_drop, List.take_append_drop] at hhalves
        exact hwhole hhalves
      · exact hwhole (turns_replacing a b)

theorem commonPrefix_self (l : List α) : commonPrefix l l = l := by
  induction l with
  | nil => rfl
  | cons a l ih => rw [commonPrefix, if_pos rfl, ih]

theorem compare_self (l : List α) : compare l l = keeping l := by
  unfold compare compareWithin
  simp [commonPrefix_self, commonSuffix, keeping, replacing]

end

/-! ## Moving one change -/

/-- The script in which a change of this kind stands open. -/
def Opened.script (c : Change) (o : Opened α) : Script α :=
  o.before.reverse ++ c.edit o.items :: o.after

theorem alike_consKeep (l : List α) (s : Script α) : (consKeep l s).Alike (.keep l :: s) := by
  unfold consKeep
  cases l
  · exact ⟨by simp [Edit.old], by simp [Edit.new]⟩
  · exact .refl _

theorem alike_reverse_consKeep (l : List α) (s : Script α) :
    Script.Alike (consKeep l s).reverse (s.reverse ++ [.keep l]) := by
  unfold consKeep
  cases l
  · exact ⟨by simp [Edit.old], by simp [Edit.new]⟩
  · exact ⟨by simp, by simp⟩

theorem alike_keepBefore (l : List α) (s : Script α) : (keepBefore l s).Alike (.keep l :: s) := by
  unfold keepBefore
  split
  · exact ⟨by simp [Edit.old], by simp [Edit.new]⟩
  · exact .refl _

theorem alike_reverse_keepAfter (l : List α) (s : Script α) :
    Script.Alike (keepAfter l s).reverse (s.reverse ++ [.keep l]) := by
  unfold keepAfter
  split
  · exact ⟨by simp [Edit.old], by simp [Edit.new]⟩
  · exact ⟨by simp, by simp⟩

/-- A change passes one of the other kind. -/
theorem alike_swap {c : Change} {e : Edit α} (hkeep : ∀ l, e ≠ .keep l) (he : c.items? e = none)
    (l : List α) : Script.Alike [c.edit l, e] [e, c.edit l] := by
  cases e with
  | keep m => exact absurd rfl (hkeep m)
  | delete m =>
    cases c with
    | deletion => cases he
    | insertion => exact ⟨by simp [Change.edit, Edit.old], by simp [Change.edit, Edit.new]⟩
  | insert m =>
    cases c with
    | deletion => exact ⟨by simp [Change.edit, Edit.old], by simp [Change.edit, Edit.new]⟩
    | insertion => cases he

theorem edit_of_items? {c : Change} {e : Edit α} {l : List α} (h : c.items? e = some l) :
    e = c.edit l := by
  cases c <;> cases e <;> cases h <;> rfl

/-- A change joins one of its own kind. -/
theorem alike_join (c : Change) (l m : List α) :
    Script.Alike [c.edit (l ++ m)] [c.edit l, c.edit m] := by
  cases c <;> exact ⟨by simp [Change.edit, Edit.old], by simp [Change.edit, Edit.new]⟩

/-- An insertion passes kept items that are equal to its own last ones. -/
theorem alike_passUp (kept items passed : List α) (before after : Script α) :
    Script.Alike
      ((consKeep kept before).reverse ++ .insert (passed ++ items) :: keepBefore passed after)
      ((.keep (kept ++ passed) :: before).reverse ++ .insert (items ++ passed) :: after) := by
  have hnear := (Alike.refl [.insert (passed ++ items)]).append (alike_keepBefore passed after)
  refine ((alike_reverse_consKeep kept before).append hnear).trans ?_
  exact ⟨by simp [Edit.old], by simp [Edit.new]⟩

/-- An insertion passes kept items that are equal to its own first ones. -/
theorem alike_passDown (kept items passed : List α) (before after : Script α) :
    Script.Alike
      ((keepAfter passed before).reverse ++ .insert (items ++ passed) :: consKeep kept after)
      (before.reverse ++ .insert (passed ++ items) :: .keep (passed ++ kept) :: after) := by
  have hnear := (Alike.refl [.insert (items ++ passed)]).append (alike_consKeep kept after)
  refine ((alike_reverse_keepAfter passed before).append hnear).trans ?_
  exact ⟨by simp [Edit.old], by simp [Edit.new]⟩

theorem alike_dropKeep (before after : Script α) :
    Script.Alike (before ++ after) (before ++ .keep [] :: after) :=
  ⟨by simp [Edit.old], by simp [Edit.new]⟩

section
variable [DecidableEq α]

theorem alike_moveUp (c : Change) (fuel : Nat) (o : Opened α) :
    ((moveUp c fuel o).script c).Alike (o.script c) := by
  fun_induction moveUp c fuel o with
  | case1 o => exact .refl _
  | case2 _ o _ => exact .refl _
  | case3 fuel o kept rest hbefore passed _ hkept ih =>
    rw [List.isEmpty_iff.1 hkept] at hbefore
    refine ih.trans ?_
    simp only [Opened.script, hbefore, List.reverse_cons, List.append_assoc]
    exact alike_dropKeep _ _
  | case4 _ o _ _ _ _ _ _ => exact .refl _
  | case5 fuel o kept rest hbefore passed hpassed ih =>
    obtain rfl : c = .insertion := by
      cases c with
      | deletion => exact absurd rfl hpassed
      | insertion => rfl
    have hkept := take_append_commonSuffix_left kept o.items
    have hitems := take_append_commonSuffix_right kept o.items
    have hmoved := alike_passUp (kept.take (kept.length - passed.length))
      (o.items.take (o.items.length - passed.length)) passed rest o.after
    refine ih.trans ?_
    rw [show passed = commonSuffix kept o.items from if_pos rfl] at hmoved ⊢
    rw [hkept, hitems] at hmoved
    rwa [Opened.script, Opened.script, hbefore]
  | case6 fuel o e rest _ hbefore l hl ih =>
    refine ih.trans ?_
    simp only [Opened.script, hbefore, edit_of_items? hl, List.reverse_cons, List.append_assoc]
    exact (Alike.refl _).append ((alike_join c l o.items).append (.refl o.after))
  | case7 fuel o e rest hkeep hbefore hother ih =>
    refine ih.trans ?_
    simp only [Opened.script, hbefore, List.reverse_cons, List.append_assoc]
    exact (Alike.refl _).append ((alike_swap hkeep hother o.items).append (.refl o.after))

theorem alike_moveDown (c : Change) (fuel : Nat) (o : Opened α) :
    ((moveDown c fuel o).script c).Alike (o.script c) := by
  fun_induction moveDown c fuel o with
  | case1 o => exact .refl _
  | case2 _ o _ => exact .refl _
  | case3 fuel o kept rest hafter passed _ hkept ih =>
    rw [List.isEmpty_iff.1 hkept] at hafter
    refine ih.trans ?_
    simp only [Opened.script, hafter]
    exact (Alike.refl _).append (alike_dropKeep [c.edit o.items] rest)
  | case4 _ o _ _ _ _ _ _ => exact .refl _
  | case5 fuel o kept rest hafter passed hpassed ih =>
    obtain rfl : c = .insertion := by
      cases c with
      | deletion => exact absurd rfl hpassed
      | insertion => rfl
    have hkept := commonPrefix_append_drop_left kept o.items
    have hitems := commonPrefix_append_drop_right kept o.items
    have hmoved := alike_passDown (kept.drop passed.length) (o.items.drop passed.length) passed
      o.before rest
    refine ih.trans ?_
    rw [show passed = commonPrefix kept o.items from if_pos rfl] at hmoved ⊢
    rw [hkept, hitems] at hmoved
    rwa [Opened.script, Opened.script, hafter]
  | case6 fuel o e rest _ hafter l hl ih =>
    refine ih.trans ?_
    simp only [Opened.script, hafter, edit_of_items? hl]
    exact (Alike.refl _).append ((alike_join c o.items l).append (.refl rest))
  | case7 fuel o e rest hkeep hafter hother ih =>
    refine ih.trans ?_
    simp only [Opened.script, hafter, List.reverse_cons, List.append_assoc]
    exact (Alike.refl _).append ((alike_swap hkeep hother o.items).symm.append (.refl rest))

/-! ## Compact scripts -/

theorem alike_settle (c : Change) (moves fuel : Nat) (before after : Script α) :
    (settle c moves fuel before after).Alike (before.reverse ++ after) := by
  fun_induction settle c moves fuel before after with
  | case1 => exact .refl _
  | case2 => rw [List.append_nil]; exact .refl _
  | case3 fuel before e after l hl o ih =>
    have hmoved := (alike_moveDown c moves (moveUp c moves ⟨before, l, after⟩)).trans
      (alike_moveUp c moves ⟨before, l, after⟩)
    simp only [List.reverse_cons, List.append_assoc] at ih
    refine ih.trans (hmoved.trans ?_)
    rw [Opened.script, ← edit_of_items? hl]
    exact .refl _
  | case4 fuel before e after hother ih =>
    simp only [List.reverse_cons, List.append_assoc] at ih
    exact ih

theorem alike_compact (s : Script α) : (compact s).Alike s :=
  (alike_settle .insertion _ _ [] _).trans (alike_settle .deletion _ _ [] s)

theorem settle_keeping (c : Change) (moves fuel : Nat) (l : List α) :
    settle c moves fuel [] (keeping l) = keeping l := by
  unfold keeping
  cases fuel with
  | zero => rfl
  | succ fuel =>
    cases l with
    | nil => rfl
    | cons a l =>
      have hkept : c.items? (.keep (a :: l)) = none := by cases c <;> rfl
      cases fuel <;> simp [settle, hkept]

/-- There is nothing to move where nothing changes. -/
theorem compact_keeping (l : List α) : compact (keeping l) = keeping l := by
  simp only [compact, settle_keeping]

end

theorem alike_gather (deleted inserted : List α) (s : Script α) :
    (gather deleted inserted s).Alike (replacing deleted inserted ++ s) := by
  have hsides := @turns_replacing α
  fun_induction gather deleted inserted s with
  | case1 => rw [List.append_nil]; exact .refl _
  | case2 deleted inserted l rest ih =>
    exact (Alike.refl _).append ((Alike.refl [.keep l]).append ih)
  | case3 deleted inserted l rest ih =>
    refine ih.trans ⟨?_, ?_⟩
    · simp [(hsides _ _).old, Edit.old]
    · simp [(hsides _ _).new, Edit.new]
  | case4 deleted inserted l rest ih =>
    refine ih.trans ⟨?_, ?_⟩
    · simp [(hsides _ _).old, Edit.old]
    · simp [(hsides _ _).new, Edit.new]

theorem gather_keeping (l : List α) : gather [] [] (keeping l) = keeping l := by
  cases l <;> rfl

/-! ## The script that is shown -/

section
variable [DecidableEq α]

/-- The script of a difference. -/
def shownScript (old new : List α) : Script α := gather [] [] (compact (compare old new))

theorem turns_shownScript (old new : List α) : (shownScript old new).Turns old new :=
  ((alike_gather [] [] _).trans (alike_compact _)).turns (turns_compareWithin _ old new)

theorem shownScript_self (l : List α) : shownScript l l = keeping l := by
  unfold shownScript
  rw [compare_self, compact_keeping, gather_keeping]

end

end TableClasses.Diff
