import TableClasses.Proofs.Resolution

/-!
# Plans of documents

Whether a document can be normalized is settled before its first table is looked at. `planOf` is that
part of the work, and its `Plan` is what remains to be done, which cannot fail. A run on one mapper
is the plan and then its tables; so a fault finds the mapper as it was.
-/

namespace TableClasses.Schema

open TableClasses.ValueObject

/-- What a document asks to be normalized: its shape has been found sound. -/
inductive Plan where
  | catalog (tables : Entries Json)
  | grouped (table : String) (key : Option String) (groups : Entries Json)

/-- The plan of a document. The content of tables and columns does not matter here. -/
def planOf (doc : Json) : Except SchemaFault Plan := do
  match ← shapeOf doc with
  | (.catalog, root) => return .catalog (← catalogEntries root)
  | (.grouped, root) =>
    match (root.get? "databaseTable").bind textOf? with
    | none => .error .unnamedTable
    | some name =>
      return .grouped name ((root.get? "databaseTableId").bind textOf?) (← groupsOf root)

def Plan.tables (overlay : Option Overlay) : Plan → Normalizing (List Table)
  | .catalog es => catalogTables overlay es
  | .grouped name key groups => do return (← groupedTable overlay name key groups).toList

/-- The entries of a value that is there and is an object. -/
def entriesIn : Option Json → Entries Json
  | some (.object es) => es
  | _ => []

/-! ## Shapes -/

section
variable {doc : Json} {root : Entries Json}

theorem shapeOf_grouped (h : root.has "databaseTable" = true) :
    shapeOf (.object root) = .ok (.grouped, root) := by
  simp only [shapeOf, h, if_true]

theorem shapeOf_catalog (h : root.has "databaseTable" = false) :
    shapeOf (.object root) = .ok (.catalog, root) := by
  simp only [shapeOf, h, Bool.false_eq_true, if_false]

theorem catalogEntries_eq_ok {es : Entries Json} (h : catalogEntries root = .ok es) :
    es = match root.get? "tables" with
      | none => root
      | tables => entriesIn tables := by
  unfold catalogEntries at h
  split at h
  · next hnone =>
    rw [hnone]
    exact (Except.ok.inj h).symm
  · next hsome =>
    rw [hsome]
    exact (Except.ok.inj h).symm
  · cases h

theorem groupsOf_eq_ok {groups : Entries Json} (h : groupsOf root = .ok groups) :
    groups = entriesIn (root.get? "databaseCols") := by
  unfold groupsOf at h
  split at h
  · next hnone =>
    rw [hnone]
    exact (Except.ok.inj h).symm
  · next hnull =>
    rw [hnull]
    exact (Except.ok.inj h).symm
  · next hsome =>
    rw [hsome]
    exact (Except.ok.inj h).symm
  · cases h

theorem planOf_catalog (h : shapeOf doc = .ok (.catalog, root)) :
    planOf doc = (catalogEntries root).map Plan.catalog := by
  unfold planOf
  rw [h]
  show (catalogEntries root >>= fun es => _) = _
  cases catalogEntries root <;> rfl

theorem planOf_grouped (h : shapeOf doc = .ok (.grouped, root)) :
    planOf doc =
      match (root.get? "databaseTable").bind textOf? with
      | none => .error .unnamedTable
      | some name => (groupsOf root).map fun groups =>
          .grouped name ((root.get? "databaseTableId").bind textOf?) groups := by
  unfold planOf
  rw [h]
  show (match (root.get? "databaseTable").bind textOf? with
    | none => _
    | some name => _) = _
  cases (root.get? "databaseTable").bind textOf? with
  | none => rfl
  | some name => cases groupsOf root <;> rfl

end

/-! ## Runs -/

namespace InPlace

variable {α β : Type}

theorem run_check_ok_bind (a : α) (f : α → InPlace β) (m : Mapper) :
    (check (.ok a) >>= f).run m = (f a).run m := rfl

theorem run_lift (x : Normalizing α) (m : Mapper) :
    (ExceptT.lift x : InPlace α).run m
      = ⟨(.ok (x m).value.1, (x m).value.2), (x m).warnings⟩ := by
  show (⟨_, (x m).warnings ++ []⟩ : Warned _) = _
  rw [List.append_nil]
  rfl

end InPlace

/-- A run gives the tables of the plan, or ends where there is no plan and leaves the mapper. -/
theorem normalizeInPlace_run (overlay : Option Overlay) (m : Mapper) (doc : Json) :
    (normalizeInPlace overlay doc).run m =
      match planOf doc with
      | .ok plan =>
        ⟨(.ok (plan.tables overlay m).value.1, (plan.tables overlay m).value.2),
          (plan.tables overlay m).warnings⟩
      | .error fault => ⟨(.error fault, m), []⟩ := by
  unfold normalizeInPlace
  cases hshape : shapeOf doc with
  | error fault =>
    unfold planOf
    rw [hshape]
    rfl
  | ok found =>
    rw [InPlace.run_check_ok_bind]
    obtain ⟨_ | _, root⟩ := found
    · rw [planOf_catalog hshape]
      simp only
      cases catalogEntries root with
      | error fault => rfl
      | ok es => exact InPlace.run_lift (catalogTables overlay es) m
    · rw [planOf_grouped hshape]
      simp only
      cases (root.get? "databaseTable").bind textOf? with
      | none => rfl
      | some name =>
        cases groupsOf root with
        | error fault => rfl
        | ok groups =>
          exact InPlace.run_lift ((Plan.grouped name _ groups).tables overlay) m

theorem normalize_eq (overlay : Option Overlay) (m : Mapper) (doc : Json) :
    normalize overlay m doc = (planOf doc).map fun plan => plan.tables overlay m := by
  unfold normalize
  rw [normalizeInPlace_run]
  cases planOf doc <;> rfl

end TableClasses.Schema
