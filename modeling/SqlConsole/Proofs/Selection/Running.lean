import SqlConsole.Proofs.Catalog.Documents
import SqlConsole.Proofs.Selection.Sorting

/-!
# Running a plan

A plan whose places lie in its table and whose operator exists has rows, but for integers that are
too long to be written (`Plan.run_succeeds`). Without groups and pages these are the rows that
satisfy its condition, in the order of the columns that they are sorted by (`Plan.run_sorts`).
-/

namespace SqlConsole

namespace Plan

variable {plan : Plan} {out : List Row}

structure IsResolved (plan : Plan) : Prop where
  columns : ∀ index ∈ plan.columns, index < plan.table.columns.length
  filter : ∀ filter ∈ plan.filter, filter.index < plan.table.columns.length
  operator : ∀ filter ∈ plan.filter, filter.operator.isKnown = true
  groupBy : ∀ index ∈ plan.groupBy, index < plan.table.columns.length
  orderBy : ∀ key ∈ plan.orderBy, key.1 < plan.table.columns.length

/-- Whether what has to be written to run a plan can be written. -/
structure IsWritable (plan : Plan) : Prop where
  filter : ∀ filter ∈ plan.filter, ∀ row ∈ plan.table.numberedRows, filter.CanCompare row
  groupBy : ∀ index ∈ plan.groupBy, ∀ row ∈ plan.table.numberedRows, row.HasKey index
  orderBy : ∀ key ∈ plan.orderBy, ∀ row ∈ plan.table.numberedRows, row.HasKey key.1

theorem isWritable_of_table (cells : plan.table.IsWritable)
    (literal : ∀ filter ∈ plan.filter, filter.literal.isWritable = true) : plan.IsWritable := by
  have writable : ∀ row ∈ plan.table.numberedRows, ∀ (index : Nat) (v : Value),
      row.cells[index]? = some v → v.isWritable = true := fun row member index v there =>
    cells row.cells (List.mem_of_getElem? (Table.mem_numberedRows.mp member)) v
      (List.mem_of_getElem? there)
  refine ⟨fun filter present row member cell there _ => ?_, fun index _ row member v there => ?_,
    fun key _ row member v there => ?_⟩
  · exact ⟨writable row member _ cell there, literal filter present⟩
  · exact .inr (writable row member index v there)
  · exact .inr (writable row member key.1 v there)

theorem page_sublist {α : Type} (limit offset : Option Nat) (items : List α) :
    (Execution.page limit offset items).Sublist items := by
  unfold Execution.page
  dsimp only
  split
  · exact (List.take_sublist _ _).trans (List.drop_sublist _ _)
  · exact List.drop_sublist _ _

theorem page_eq_self {α : Type} (unlimited : plan.limit = none) (unskipped : plan.offset = none)
    (items : List α) : Execution.page plan.limit plan.offset items = items := by
  simp [Execution.page, unlimited, unskipped]

theorem steps_of_run (run : plan.run = .ok out) :
    ∃ grouped sorted,
      Execution.groupRows plan.groupBy (plan.table.numberedRows.filter plan.selects) =
        .ok grouped ∧
      Execution.orderRows plan.orderBy grouped = .ok sorted ∧
      List.Forall₂ (Row.IsProjection plan.columns)
        (Execution.page plan.limit plan.offset sorted) out := by
  obtain ⟨kept, filtered, run⟩ := bind_ok_iff.mp run
  obtain rfl := Execution.filterRows_ok filtered
  obtain ⟨grouped, groups, run⟩ := bind_ok_iff.mp run
  obtain ⟨sorted, order, run⟩ := bind_ok_iff.mp run
  refine ⟨grouped, sorted, groups, order, ?_⟩
  exact (mapM_ok_iff.mp run).imp fun row projected => Row.project_ok_iff.mp

theorem sublist_of_steps {grouped sorted : List Row}
    (groups : Execution.groupRows plan.groupBy (plan.table.numberedRows.filter plan.selects) =
      .ok grouped) (order : Execution.orderRows plan.orderBy grouped = .ok sorted) :
    ∀ row ∈ Execution.page plan.limit plan.offset sorted, row ∈ plan.table.numberedRows := by
  intro row member
  have inGroups : row ∈ grouped := (Execution.orderRows_perm order).mem_iff.mp
    ((page_sublist _ _ _).mem member)
  exact (List.mem_filter.mp ((Execution.groupRows_sublist groups).mem inGroups)).1

/-- No step of a plan with its names resolved fails, unless an integer has to be written that is too
long. -/
theorem run_succeeds (resolved : plan.IsResolved) :
    SucceedsIf plan.IsWritable (.overlong .integer) plan.run := by
  have aligned : ∀ row ∈ plan.table.numberedRows,
      row.cells.length = plan.table.columns.length := fun row => Table.length_cells
  refine .bind ((Execution.filterRows_succeeds
    (fun filter present row member => aligned row member ▸ resolved.filter filter present)
    resolved.operator).of_imp IsWritable.filter) fun kept filtered => ?_
  obtain rfl := Execution.filterRows_ok filtered
  have inTable : ∀ row ∈ plan.table.numberedRows.filter plan.selects,
      row ∈ plan.table.numberedRows := fun row member => (List.mem_filter.mp member).1
  refine .bind ((Execution.groupRows_succeeds fun index present row member =>
    aligned row (inTable row member) ▸ resolved.groupBy index present).of_imp
    fun writable index present row member =>
      writable.groupBy index present row (inTable row member)) fun grouped groups => ?_
  have grouping := Execution.groupRows_sublist groups
  refine .bind ((Execution.orderRows_succeeds fun key present row member =>
    aligned row (inTable row (grouping.mem member)) ▸ resolved.orderBy key present).of_imp
    fun writable key present row member =>
      writable.orderBy key present row (inTable row (grouping.mem member)))
    fun sorted order => .inl ?_
  exact mapM_succeeds_iff.mpr fun row member => Row.exists_project fun index present =>
    aligned row (sublist_of_steps groups order row member) ▸ resolved.columns index present

theorem exists_run (resolved : plan.IsResolved) (writable : plan.IsWritable) :
    ∃ out, plan.run = .ok out := (run_succeeds resolved).exists_ok writable

/-! ### Sorted rows -/

/-- Without groups and pages, the rows of a plan are those rows of the table that satisfy its
condition, each once, in the order of all its columns at once, and each with the cells of the plan.
There are such rows whenever the names of the plan are resolved, unless an integer has to be written
that is too long. -/
theorem run_sorts (plan : Plan) (ungrouped : plan.groupBy = []) (unlimited : plan.limit = none)
    (unskipped : plan.offset = none)
    (numbers : ∀ cells ∈ plan.table.rows, ∀ key ∈ plan.orderBy, ∀ object,
      cells[key.1]? ≠ some (.real (.nan object))) :
    (plan.IsResolved → SucceedsIf plan.IsWritable (.overlong .integer) plan.run) ∧
      ∀ out, plan.run = .ok out → ∃ sorted : List Row,
        List.Forall₂ (Row.IsProjection plan.columns) sorted out ∧
        sorted.Perm (plan.table.numberedRows.filter plan.selects) ∧
        sorted.Pairwise (Row.Precedes plan.orderBy) ∧
        sorted.Pairwise (Row.PlacesNulls plan.orderBy) := by
  refine ⟨run_succeeds, fun out run => ?_⟩
  obtain ⟨grouped, sorted, groups, order, projected⟩ := steps_of_run run
  have alone : grouped = plan.table.numberedRows.filter plan.selects := by
    rw [ungrouped] at groups
    cases groups
    rfl
  have whole : Execution.page plan.limit plan.offset sorted = sorted := by
    simp [Execution.page, unlimited, unskipped]
  rw [whole] at projected
  subst alone
  have ordered := plan.table.numberedRows_ordered.filter plan.selects
  have comparable : ∀ key ∈ plan.orderBy, ∀ row ∈ plan.table.numberedRows.filter plan.selects,
      row.IsComparable key.1 := by
    intro key present row member
    have inTable := Table.mem_numberedRows.mp (List.mem_filter.mp member).1
    exact numbers row.cells (List.mem_of_getElem? inTable) key present
  have precedes := Execution.orderRows_precedes ordered comparable order
  exact ⟨sorted, projected, Execution.orderRows_perm order, precedes,
    precedes.imp fun before => before.placesNulls⟩

def marks : Table where
  name := "marks"
  columns := ["pupil", "mark"]
  rows := [[.text "Ann", .integer 2], [.text "Bob", .null], [.text "Cid", .real (.finite false 1 1)],
    [.null, .integer 5], [.text "Dan", .integer 3]]
  columns_distinct := by decide
  rows_aligned := by decide

def bestFirst : Plan where
  table := marks
  columns := [0]
  filter := some ⟨0, .ne, .text "Eve"⟩
  groupBy := []
  orderBy := [(1, .descending), (0, .ascending), (1, .ascending)]
  limit := none
  offset := none

theorem run_sorts_bestFirst :
    ∃ out sorted, bestFirst.run = .ok out ∧
      List.Forall₂ (Row.IsProjection [0]) sorted out ∧
      sorted.Perm (marks.numberedRows.filter bestFirst.selects) ∧
      sorted.Pairwise (Row.Precedes [(1, .descending), (0, .ascending), (1, .ascending)]) ∧
      sorted.Pairwise (Row.PlacesNulls [(1, .descending), (0, .ascending), (1, .ascending)]) := by
  have numbers : ∀ cells ∈ marks.rows, ∀ key ∈ bestFirst.orderBy, ∀ object,
      cells[key.1]? ≠ some (.real (.nan object)) := by
    simp [marks, bestFirst]
  obtain ⟨succeeds, sorts⟩ := run_sorts bestFirst rfl rfl rfl numbers
  have writable : bestFirst.IsWritable := isWritable_of_table (by decide +kernel) (by decide)
  obtain ⟨out, run⟩ := (succeeds (by constructor <;> decide)).exists_ok writable
  obtain ⟨sorted, order⟩ := sorts out run
  exact ⟨out, sorted, run, order⟩

end Plan

end SqlConsole
