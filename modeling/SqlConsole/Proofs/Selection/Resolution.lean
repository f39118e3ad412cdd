import SqlConsole.Proofs.Selection.Places
import SqlConsole.Proofs.Selection.Running
import SqlConsole.Proofs.Statement.Literal

/-!
# Resolved names

The names of a selection are resolved to places in the table (`Plan.Follows.lt_length`), and a
selection that was read has an operator that exists, so the plan of a selection that was read is
resolved (`Plan.isResolved_of_parse`). Its literal can be written (`Plan.isWritable_of_parse`).
-/

namespace SqlConsole

namespace Plan

variable {selection : Selection} {table : Table} {plan : Plan}

theorem isResolved_of_ofTable (planned : ofTable selection table = .ok plan)
    (known : ∀ condition ∈ selection.condition, condition.operator.isKnown = true) :
    plan.IsResolved := by
  have follows := ofTable_eq_ok_iff.mp planned
  have inside := follows.lt_length
  obtain ⟨rfl, -, filtered, -, -, -, -⟩ := follows
  simp only [places, List.forall_mem_append, List.forall_mem_map] at inside
  obtain ⟨columns, filter, groupBy, orderBy⟩ := inside
  refine ⟨columns, fun found present => filter _ (by simp [Option.mem_def.mp present]), ?_,
    groupBy, orderBy⟩
  intro found present
  rw [Option.mem_def.mp present] at filtered
  generalize given : selection.condition = condition at filtered
  cases filtered with
  | some names =>
    rw [names.2.1]
    exact known _ given

theorem isResolved_of_parse {database : Database} {text : Text} {statement : Statement}
    (read : Statement.parse text = .ok (some statement))
    (query : statement.request = .select selection)
    (planned : ofSelection selection database = .ok plan) : plan.IsResolved := by
  unfold ofSelection at planned
  split at planned
  · exact isResolved_of_ofTable planned (Statement.operator_of_parse read query)
  · cases planned

theorem isWritable_of_parse {database : Database} {text : Text} {statement : Statement}
    (read : Statement.parse text = .ok (some statement))
    (query : statement.request = .select selection)
    (planned : ofSelection selection database = .ok plan) (cells : plan.table.IsWritable) :
    plan.IsWritable := by
  refine isWritable_of_table cells fun filter present => ?_
  unfold ofSelection at planned
  split at planned
  · have filtered := (ofTable_eq_ok_iff.mp planned).filter
    rw [Option.mem_def.mp present] at filtered
    generalize given : selection.condition = condition at filtered
    cases filtered with
    | some names =>
      rw [names.2.2]
      exact Value.IsReadLiteral.isWritable ⟨text, statement, selection, _, read, query, given, rfl⟩
  · cases planned

end Plan

end SqlConsole
