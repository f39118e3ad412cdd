import SqlConsole.Selection.Plan

/-!
# Execution

The rows of a plan: those that pass its filter, the first of each group, sorted, one page of them,
and of each the cells of the columns of the plan.
-/

namespace SqlConsole

structure Row where
  id : Nat
  cells : List Value
  deriving DecidableEq

namespace Row

def cell (row : Row) (index : Nat) : Except ExecutionError Value :=
  match row.cells[index]? with
  | some v => .ok v
  | none => .error (.noColumn row.id index)

/-- The cell in a place that may be negative, where there is none. -/
def cellAt (row : Row) (index : Int) : Except ExecutionError Value :=
  if 0 ≤ index then row.cell index.toNat else .error (.noColumn row.id index)

def key (row : Row) (index : Nat) : Except ExecutionError SortKey := do
  (← row.cell index).sortKey?.mapError .overlong

def project (columns : List Nat) (row : Row) : Except ExecutionError Row := do
  return ⟨row.id, ← columns.mapM row.cell⟩

end Row

def Table.numberedRows (table : Table) : List Row :=
  table.rows.zipIdx.map fun (cells, i) => ⟨i, cells⟩

def Filter.accepts (filter : Filter) (row : Row) : Except ExecutionError Bool := do
  (← row.cell filter.index).satisfies filter.operator filter.literal

namespace Execution

/-! ### Filtering -/

def keep (test : Row → Except ExecutionError Bool) : List Row → Except ExecutionError (List Row)
  | [] => .ok []
  | row :: rows => do
    let passes ← test row
    let rest ← keep test rows
    return if passes then row :: rest else rest

def filterRows (filter : Option Filter) (rows : List Row) : Except ExecutionError (List Row) :=
  match filter with
  | some filter => keep filter.accepts rows
  | none => .ok rows

/-! ### Grouping -/

def sameKeys : List SortKey → List SortKey → Bool
  | [], [] => true
  | a :: as, b :: bs => a.same b && sameKeys as bs
  | _, _ => false

/-- The first row of each list of keys, in order, but for the lists of keys already seen. -/
def firstOfEach (seen : List (List SortKey)) : List (List SortKey × Row) → List Row
  | [] => []
  | (keys, row) :: rest =>
    if seen.any (sameKeys keys) then firstOfEach seen rest
    else row :: firstOfEach (keys :: seen) rest

/-- The first row of each group, in order. -/
def groupRows (columns : List Nat) (rows : List Row) : Except ExecutionError (List Row) := do
  if columns.isEmpty then return rows
  return firstOfEach [] (← rows.mapM fun row => do return (← columns.mapM row.key, row))

/-! ### Sorting -/

def sortRows (column : Nat) (direction : Direction) (rows : List Row) :
    Except ExecutionError (List Row) := do
  let keyed ← rows.mapM fun row => do return (← row.key column, row)
  return (sortBy direction (·.1) keyed).map (·.2)

/-- The rows sorted by several columns. As sorting keeps the order of rows with equal keys, the
first column, which matters most, is sorted by last. -/
def orderRows : List (Nat × Direction) → List Row → Except ExecutionError (List Row)
  | [], rows => .ok rows
  | (column, direction) :: rest, rows => do sortRows column direction (← orderRows rest rows)

/-! ### Paging -/

/-- The rows after the first `offset`, at most `limit` of them. -/
def page {α : Type} (limit offset : Option Nat) (rows : List α) : List α :=
  let rows := rows.drop (offset.getD 0)
  match limit with
  | some n => rows.take n
  | none => rows

end Execution

def Plan.run (plan : Plan) : Except ExecutionError (List Row) := do
  let rows ← Execution.filterRows plan.filter plan.table.numberedRows
  let rows ← Execution.groupRows plan.groupBy rows
  let rows ← Execution.orderRows plan.orderBy rows
  (Execution.page plan.limit plan.offset rows).mapM (Row.project plan.columns)

structure ResultSet where
  columns : List Text
  rows : List (List Value)
  rowCount : Nat
  deriving DecidableEq

/-- The answer to a selection from a database of the catalog. Where no database is chosen, none is
found. -/
def Catalog.run (catalog : Catalog) (selection : Selection) (name : Option Text) :
    Except QueryError ResultSet :=
  match name.bind catalog.database? with
  | none => .error (.unknownDatabase name)
  | some database => do
    let plan ← Plan.ofSelection selection database
    match plan.run with
    | .ok rows => return ⟨plan.columnNames, rows.map (·.cells), rows.length⟩
    | .error e => .error (.execution e)

end SqlConsole
