import SqlConsole.Selection.Execution
import SqlConsole.Proofs.Query.Unnamed

/-!
# References of a selection

Two selections that are alike but for the spelling of their column references have the same answer,
or none both, where the references resolve alike (`Catalog.run_alike`).
-/

namespace SqlConsole

namespace Selection

def references (selection : Selection) : List Text :=
  selection.columns ++ ((selection.condition.map Condition.column).toList ++
    (selection.groupBy ++ selection.orderBy.map SortItem.column))

variable {s u : Selection}

theorem condition_eq {c d : Option Condition}
    (alike : c.map Condition.unnamed = d.map Condition.unnamed)
    (same : (c.map Condition.column).toList = (d.map Condition.column).toList) : c = d := by
  cases c with
  | none => cases d <;> simp_all
  | some c =>
    cases d with
    | none => simp_all
    | some d =>
      obtain ⟨column, operator, literal⟩ := c
      simp_all [Condition.unnamed]

theorem orderBy_eq {xs ys : List SortItem}
    (alike : xs.map SortItem.unnamed = ys.map SortItem.unnamed)
    (same : xs.map SortItem.column = ys.map SortItem.column) : xs = ys := by
  induction xs generalizing ys with
  | nil => simpa using same
  | cons x xs ih =>
    cases ys with
    | nil => cases same
    | cons y ys =>
      simp only [List.map_cons, List.cons.injEq] at alike same
      obtain rfl := ih alike.2 same.2
      obtain ⟨column, direction⟩ := x
      simp_all [SortItem.unnamed]

theorem eq_of_references (alike : s.unnamed = u.unnamed) (same : s.references = u.references) :
    s = u := by
  obtain ⟨sColumns, table, tableAlias, sCondition, sGroupBy, sOrderBy, limit, offset⟩ := s
  obtain ⟨uColumns, uTable, uAlias, uCondition, uGroupBy, uOrderBy, uLimit, uOffset⟩ := u
  simp only [unnamed, Selection.mk.injEq] at alike
  obtain ⟨columns, rfl, rfl, condition, groupBy, orderBy, rfl, rfl⟩ := alike
  -- The lists have the same lengths, so what is joined splits at the same places.
  have lengths := congrArg List.length columns
  have lengthsGroup := congrArg List.length groupBy
  have lengthsCondition : (sCondition.map Condition.column).toList.length =
      (uCondition.map Condition.column).toList.length := by
    cases sCondition <;> cases uCondition <;> simp_all
  simp only [List.length_map] at lengths lengthsGroup
  obtain ⟨sameColumns, rest⟩ := List.append_inj same lengths
  obtain ⟨sameCondition, rest⟩ := List.append_inj rest lengthsCondition
  obtain ⟨sameGroup, sameOrder⟩ := List.append_inj rest lengthsGroup
  obtain rfl : sColumns = uColumns := sameColumns
  obtain rfl : sGroupBy = uGroupBy := sameGroup
  obtain rfl := condition_eq condition sameCondition
  obtain rfl := orderBy_eq orderBy sameOrder
  rfl

/-- Whether the references of two selections stand, one by one, for the same columns of a table, or
for none both. -/
structure ResolvesAlike (table : Table) (s u : Selection) : Prop where
  columns : List.Forall₂ (fun c d => SameValue (Plan.expand s table c) (Plan.expand u table d))
    s.columns u.columns
  condition : Option.Rel (fun c d =>
    SameValue (Plan.resolve s table c.column) (Plan.resolve u table d.column))
      s.condition u.condition
  groupBy : List.Forall₂ (fun c d => SameValue (Plan.resolve s table c) (Plan.resolve u table d))
    s.groupBy u.groupBy
  orderBy : List.Forall₂ (fun c d =>
    SameValue (Plan.resolve s table c.column) (Plan.resolve u table d.column)) s.orderBy u.orderBy

end Selection

namespace Plan

variable {s u : Selection} {table : Table}

theorem filter_alike {c d : Option Condition}
    (alike : c.map Condition.unnamed = d.map Condition.unnamed)
    (resolves : Option.Rel (fun c d =>
      SameValue (resolve s table c.column) (resolve u table d.column)) c d) :
    SameValue (c.mapM (resolveCondition s table)) (d.mapM (resolveCondition u table)) := by
  cases resolves with
  | none => exact .refl _
  | @some c d resolves =>
    obtain ⟨column, operator, literal⟩ := c
    obtain ⟨rfl, rfl⟩ : operator = d.operator ∧ literal = d.literal := by
      simpa [Condition.unnamed] using alike
    exact (resolves.bind fun _ => .refl _).bind fun _ => .refl _

theorem ofTable_alike (alike : s.unnamed = u.unnamed) (resolves : s.ResolvesAlike table u) :
    SameValue (ofTable s table) (ofTable u table) := by
  simp only [Selection.unnamed, Selection.mk.injEq] at alike
  obtain ⟨-, -, -, condition, -, order, limit, offset⟩ := alike
  have directions : List.Forall₂ (fun c d => SortItem.unnamed c = SortItem.unnamed d)
      s.orderBy u.orderBy :=
    List.forall₂_map_left_iff.mp (List.forall₂_map_right_iff.mp (order ▸ List.forall₂_refl _))
  unfold ofTable
  rw [limit, offset]
  refine (SameValue.mapM resolves.columns).bind fun columns => ?_
  refine (filter_alike condition resolves.condition).bind fun filter => ?_
  refine (SameValue.mapM resolves.groupBy).bind fun groupBy => ?_
  refine (SameValue.mapM ?_).bind fun orderBy => .refl _
  refine List.Forall₂.mp (fun c d same resolves => ?_) directions resolves.orderBy
  obtain ⟨column, direction⟩ := c
  obtain rfl : direction = d.direction := by simpa [SortItem.unnamed] using same
  exact resolves.bind fun _ => .refl _

end Plan

/-- Where references resolve alike in the table that is asked, selections that are alike but for
them have the same answer. -/
theorem Catalog.run_alike {catalog : Catalog} {s u : Selection} {name : Option Text}
    (alike : s.unnamed = u.unnamed)
    (resolves : ∀ database table, name.bind catalog.database? = some database →
      database.table? s.table = some table → s.ResolvesAlike table u) :
    SameValue (catalog.run s name) (catalog.run u name) := by
  have asked : s.table = u.table := by
    simp only [Selection.unnamed, Selection.mk.injEq] at alike
    exact alike.2.1
  unfold Catalog.run
  cases found : name.bind catalog.database? with
  | none => exact .of_errors _ _
  | some database =>
    refine SameValue.bind ?_ fun plan => .refl _
    unfold Plan.ofSelection
    rw [← asked]
    cases held : database.table? s.table with
    | none => exact .of_errors _ _
    | some table => exact Plan.ofTable_alike alike (resolves database table found held)

end SqlConsole
