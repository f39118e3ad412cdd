import SqlConsole.Selection.Execution
import SqlConsole.Proofs.Result

/-!
# Rows of a table

Each step of a plan is said of whole lists of rows: which rows pass its filter
(`filterRows_ok_iff`), which cells a row is projected to (`project_ok_iff`), and that grouping only
leaves rows out (`groupRows_sublist`).
-/

namespace SqlConsole

variable {row : Row} {rows : List Row} {columns : List Nat}

/-! ### The rows as the table has them -/

theorem Table.mem_numberedRows {table : Table} :
    row ∈ table.numberedRows ↔ table.rows[row.id]? = some row.cells := by
  unfold numberedRows
  rw [List.mem_map]
  constructor
  · intro found
    obtain ⟨⟨cells, place⟩, member, rfl⟩ := found
    exact List.mem_zipIdx_iff_getElem?.mp member
  · intro found
    exact ⟨(row.cells, row.id), List.mem_zipIdx_iff_getElem?.mpr found, rfl⟩

theorem Table.length_cells {table : Table} (member : row ∈ table.numberedRows) :
    row.cells.length = table.columns.length :=
  table.rows_aligned _ (List.mem_of_getElem? (Table.mem_numberedRows.mp member))

theorem Table.numberedRows_ordered (table : Table) :
    table.numberedRows.Pairwise fun a b => a.id < b.id := by
  unfold numberedRows
  rw [List.pairwise_map, ← List.pairwise_map (f := Prod.snd) (R := (· < ·)), List.zipIdx_map_snd]
  exact List.pairwise_lt_range'

/-! ### Cells -/

theorem Row.cell_ok_iff {index : Nat} {v : Value} :
    row.cell index = .ok v ↔ row.cells[index]? = some v := by
  unfold cell
  cases row.cells[index]? <;> simp

theorem Row.exists_cell {index : Nat} (inside : index < row.cells.length) :
    ∃ v, row.cell index = .ok v :=
  ⟨row.cells[index], cell_ok_iff.mpr (List.getElem?_eq_getElem inside)⟩

theorem Row.key_ok_iff {index : Nat} {key : SortKey} :
    row.key index = .ok key ↔ ∃ v, row.cells[index]? = some v ∧ v.sortKey? = .ok key := by
  unfold Row.key
  rw [bind_ok_iff]
  simp only [cell_ok_iff, mapError_ok_iff]

theorem Value.sortKey?_ok {v : Value} {key : SortKey} (read : v.sortKey? = .ok key) :
    key = v.sortKey := by
  unfold Value.sortKey? at read
  split at read
  · cases read
    rfl
  · cases read

/-- Whether the cell of a row in a column has a key to be sorted by: it is a number, or it can be
written. -/
def Row.HasKey (index : Nat) (row : Row) : Prop :=
  ∀ v ∈ row.cells[index]?, v.number?.isSome = true ∨ v.isWritable = true

theorem Row.key_succeeds {index : Nat} (inside : index < row.cells.length) :
    SucceedsIf (row.HasKey index) (.overlong .integer) (row.key index) := by
  obtain ⟨v, found⟩ := exists_cell inside
  refine .bind (.inl ⟨v, found⟩) fun w read => ?_
  unfold Value.sortKey?
  split
  · exact .inl ⟨_, rfl⟩
  · rename_i unwritten
    refine .inr ⟨fun given => unwritten ?_, rfl⟩
    simpa using given w (cell_ok_iff.mp read)

def Row.IsProjection (columns : List Nat) (row projected : Row) : Prop :=
  projected.id = row.id ∧ List.Forall₂ (fun index v => row.cells[index]? = some v) columns
    projected.cells

theorem Row.project_ok_iff {projected : Row} :
    row.project columns = .ok projected ↔ row.IsProjection columns projected := by
  unfold project IsProjection
  rw [bind_ok_iff]
  simp only [mapM_ok_iff, cell_ok_iff, pure, Except.pure, Except.ok.injEq]
  constructor
  · rintro ⟨cells, each, rfl⟩
    exact ⟨rfl, each⟩
  · intro given
    obtain ⟨same, each⟩ := given
    exact ⟨projected.cells, each, by rw [← same]⟩

theorem Row.exists_project (inside : ∀ index ∈ columns, index < row.cells.length) :
    ∃ projected, row.project columns = .ok projected := by
  obtain ⟨cells, read⟩ :=
    mapM_succeeds_iff.mpr fun index member => exists_cell (inside index member)
  exact ⟨⟨row.id, cells⟩, bind_ok_iff.mpr ⟨cells, read, rfl⟩⟩

/-! ### Filtering -/

/-- Whether a cell can be compared with a literal: both can be written if they compare as texts. -/
def Value.CanCompare (cell : Value) (op : Operator) (literal : Value) : Prop :=
  cell.comparesTexts op literal = true → cell.isWritable = true ∧ literal.isWritable = true

theorem Value.satisfies_succeeds {cell literal : Value} {op : Operator}
    (known : op.isKnown = true) :
    SucceedsIf (cell.CanCompare op literal) (.overlong .integer) (cell.satisfies op literal) := by
  unfold satisfies
  split
  · exact .inl ⟨false, rfl⟩
  · split
    · rename_i unwritten
      simp only [Bool.and_eq_true, Bool.not_eq_eq_eq_not, Bool.not_true] at unwritten
      refine .inr ⟨fun given => ?_, rfl⟩
      simp [given unwritten.1] at unwritten
    · cases op with
      | unknown symbol => exact absurd known (by simp [Operator.isKnown])
      | _ => exact .inl ⟨_, rfl⟩

def Plan.selects (plan : Plan) (row : Row) : Bool :=
  plan.filter.all fun filter => row.cells[filter.index]?.any fun cell =>
    cell.satisfies filter.operator filter.literal = .ok true

theorem Filter.accepts_ok_iff {filter : Filter} {b : Bool} :
    filter.accepts row = .ok b ↔ ∃ cell, row.cells[filter.index]? = some cell ∧
      cell.satisfies filter.operator filter.literal = .ok b := by
  unfold accepts
  rw [bind_ok_iff]
  simp only [Row.cell_ok_iff]

/-- Whether the cell of a row that a filter looks at can be compared with its literal. -/
def Filter.CanCompare (filter : Filter) (row : Row) : Prop :=
  ∀ cell ∈ row.cells[filter.index]?, cell.CanCompare filter.operator filter.literal

theorem Filter.accepts_succeeds {filter : Filter} (inside : filter.index < row.cells.length)
    (known : filter.operator.isKnown = true) :
    SucceedsIf (filter.CanCompare row) (.overlong .integer) (filter.accepts row) := by
  obtain ⟨v, found⟩ := Row.exists_cell inside
  refine .bind (.inl ⟨v, found⟩) fun w read => (Value.satisfies_succeeds known).of_imp ?_
  exact fun given => given w (Row.cell_ok_iff.mp read)

namespace Execution

theorem keep_ok_iff {test : Row → Except ExecutionError Bool} {kept : List Row} :
    keep test rows = .ok kept ↔ (∀ row ∈ rows, ∃ b, test row = .ok b) ∧
      kept = rows.filter fun row => test row = .ok true := by
  induction rows generalizing kept with
  | nil => simp [keep, eq_comm]
  | cons row rows ih =>
    rw [keep]
    simp only [bind_ok_iff, ih, pure, Except.pure, Except.ok.injEq, List.forall_mem_cons,
      List.filter_cons]
    constructor
    · rintro ⟨b, first, _, ⟨others, rfl⟩, rfl⟩
      exact ⟨⟨⟨b, first⟩, others⟩, by simp [first]⟩
    · rintro ⟨⟨⟨b, first⟩, others⟩, rfl⟩
      exact ⟨b, first, _, ⟨others, rfl⟩, by simp [first]⟩

theorem filterRows_ok {plan : Plan} {kept : List Row}
    (run : filterRows plan.filter rows = .ok kept) : kept = rows.filter plan.selects := by
  unfold Plan.selects
  cases condition : plan.filter with
  | none =>
    rw [condition] at run
    cases run
    simp
  | some filter =>
    rw [condition] at run
    obtain ⟨-, rfl⟩ := keep_ok_iff.mp run
    refine List.filter_congr fun row _ => ?_
    rw [Bool.eq_iff_iff, decide_eq_true_eq, Filter.accepts_ok_iff]
    simp [Option.any_eq_true]

theorem keep_succeeds {test : Row → Except ExecutionError Bool} {condition : Prop}
    {failure : ExecutionError} (each : ∀ row ∈ rows, SucceedsIf condition failure (test row)) :
    SucceedsIf condition failure (keep test rows) := by
  induction rows with
  | nil => exact .inl ⟨[], rfl⟩
  | cons row rows ih =>
    obtain ⟨first, others⟩ := List.forall_mem_cons.mp each
    rw [keep]
    exact first.bind fun passes _ => (ih others).bind fun rest _ => .inl ⟨_, rfl⟩

theorem filterRows_succeeds {plan : Plan}
    (inside : ∀ filter ∈ plan.filter, ∀ row ∈ rows, filter.index < row.cells.length)
    (known : ∀ filter ∈ plan.filter, filter.operator.isKnown = true) :
    SucceedsIf (∀ filter ∈ plan.filter, ∀ row ∈ rows, filter.CanCompare row) (.overlong .integer)
      (filterRows plan.filter rows) := by
  cases condition : plan.filter with
  | none => exact .inl ⟨rows, rfl⟩
  | some filter =>
    refine keep_succeeds fun row member => ?_
    refine (Filter.accepts_succeeds (inside filter condition row member)
      (known filter condition)).of_imp fun given => given filter rfl row member

/-! ### Grouping -/

theorem firstOfEach_sublist (seen : List (List SortKey)) (keyed : List (List SortKey × Row)) :
    (firstOfEach seen keyed).Sublist (keyed.map Prod.snd) := by
  induction keyed generalizing seen with
  | nil => exact .slnil
  | cons entry keyed ih =>
    obtain ⟨keys, row⟩ := entry
    rw [firstOfEach]
    split
    · exact (ih seen).cons row
    · exact (ih (keys :: seen)).cons_cons row

theorem groupRows_sublist {grouped : List Row} (run : groupRows columns rows = .ok grouped) :
    grouped.Sublist rows := by
  unfold groupRows at run
  split at run
  · cases run
    exact List.Sublist.refl _
  · obtain ⟨keyed, read, ⟨⟩⟩ := bind_ok_iff.mp run
    obtain ⟨rfl, -⟩ := mapM_paired_ok_iff.mp read
    exact firstOfEach_sublist [] keyed

theorem exists_groupRows (keys : ∀ row ∈ rows, ∃ keys, columns.mapM row.key = .ok keys) :
    ∃ grouped, groupRows columns rows = .ok grouped := by
  unfold groupRows
  split
  · exact ⟨rows, rfl⟩
  · obtain ⟨keyed, read⟩ := mapM_paired_succeeds_iff.mpr keys
    exact ⟨firstOfEach [] keyed, bind_ok_iff.mpr ⟨keyed, read, rfl⟩⟩

theorem groupRows_succeeds
    (inside : ∀ index ∈ columns, ∀ row ∈ rows, index < row.cells.length) :
    SucceedsIf (∀ index ∈ columns, ∀ row ∈ rows, row.HasKey index) (.overlong .integer)
      (groupRows columns rows) := by
  unfold groupRows
  split
  · exact .inl ⟨rows, rfl⟩
  · refine .bind (.mapM fun row member => ?_) fun keyed _ => .inl ⟨_, rfl⟩
    refine .bind (.mapM fun index present => ?_) fun keys _ => .inl ⟨_, rfl⟩
    exact (Row.key_succeeds (inside index present row member)).of_imp fun each =>
      each index present row member

end Execution

end SqlConsole
