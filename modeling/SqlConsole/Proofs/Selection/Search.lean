import SqlConsole.Proofs.Query.RoundTrip
import SqlConsole.Proofs.Selection.Answers

/-!
# Searching for what is shown

A query for the rows whose cell in a column equals a text gives just the rows whose cell is shown
as that text (`Catalog.run_searches`), whatever kind of value the cell is. It has no answer where a
cell of the column cannot be written.
-/

namespace SqlConsole

/-! ### Comparing cells with a text -/

theorem Value.sides_text {cell : Value} (present : cell ≠ .null) (t : Text) :
    cell.sides (.text t) = .texts cell.display t := by
  unfold sides
  cases cell <;> first | rfl | exact absurd rfl present

theorem Value.satisfies_eq_text (cell : Value) (t : Text) :
    cell.satisfies .eq (.text t) = if cell.isWritable then
        .ok (decide (cell ≠ .null ∧ cell.display = t))
      else .error (.overlong .integer) := by
  by_cases missing : cell = .null
  · simp [missing, satisfies, isNull, isWritable]
  · have texts := sides_text missing t
    have same : (cell.display.compare t == .eq) = decide (cell.display = t) := by
      rw [Bool.eq_iff_iff, beq_iff_eq, decide_eq_true_eq, Text.compare_eq_eq_iff]
    have compared : cell.comparesTexts .eq (.text t) = true := by
      simp [comparesTexts, texts]
    have literal : (text t).isWritable = true := rfl
    unfold satisfies
    rw [compared, literal, Bool.and_true, Bool.true_and]
    cases cell.isWritable <;>
      simp [isNull, missing, texts, Sides.compare?, Operator.accepts?, same]

namespace Plan

/-! ### Names without a point -/

theorem resolve_of_columnIndex? {selection : Selection} {table : Table} {name : Text} {index : Nat}
    (plain : .char '.' ∉ name) (found : table.columnIndex? name = some index) :
    resolve selection table name = .ok index := by
  unfold resolve
  rw [cutReference_of_plain plain]
  simp only [resolve.place, columnPlace?, found]

/-! ### Plans that only filter -/

theorem eq_of_isProjection {row projected : Row} {n : Nat} (whole : row.cells.length = n)
    (projection : Row.IsProjection (List.range n) row projected) : projected = row := by
  obtain ⟨same, cells⟩ := projection
  have length : projected.cells.length = n := by
    rw [← cells.length_eq, List.length_range]
  have each : projected.cells = row.cells := by
    refine List.ext_getElem? fun index => ?_
    by_cases inside : index < n
    · have placed := cells.get (by rwa [List.length_range]) (length ▸ inside)
      simp only [List.get_eq_getElem, List.getElem_range] at placed
      rw [placed, List.getElem?_eq_getElem (length ▸ inside)]
    · rw [List.getElem?_eq_none (by omega), List.getElem?_eq_none (by omega)]
  cases row
  cases projected
  simp_all

/-- A plan of all columns that neither groups, sorts nor pages has the rows that satisfy its
condition. -/
theorem eq_of_run {plan : Plan} {out : List Row}
    (all : plan.columns = List.range plan.table.columns.length) (ungrouped : plan.groupBy = [])
    (unsorted : plan.orderBy = []) (unlimited : plan.limit = none)
    (unskipped : plan.offset = none) (run : plan.run = .ok out) :
    out = plan.table.numberedRows.filter plan.selects := by
  obtain ⟨grouped, sorted, groups, order, projected⟩ := steps_of_run run
  rw [ungrouped] at groups
  rw [unsorted] at order
  cases groups
  cases order
  rw [page_eq_self unlimited unskipped, all] at projected
  have same : List.Forall₂ (· = ·) (plan.table.numberedRows.filter plan.selects) out := by
    refine List.forall₂_iff_zip.mpr ⟨projected.length_eq, fun {row projection} member => ?_⟩
    have inTable := (List.mem_filter.mp (List.of_mem_zip member).1).1
    exact (eq_of_isProjection (Table.length_cells inTable)
      (List.forall₂_zip projected member)).symm
  rw [List.forall₂_eq_eq_eq] at same
  exact same.symm

theorem isWritable_of_filter {plan : Plan} (ungrouped : plan.groupBy = [])
    (unsorted : plan.orderBy = [])
    (filter : ∀ filter ∈ plan.filter, ∀ row ∈ plan.table.numberedRows, filter.CanCompare row) :
    plan.IsWritable where
  filter := filter
  groupBy := by simp [ungrouped]
  orderBy := by simp [unsorted]

theorem accepts_of_run {plan : Plan} {out : List Row} (run : plan.run = .ok out) :
    ∀ filter ∈ plan.filter, ∀ row ∈ plan.table.numberedRows, ∃ b, filter.accepts row = .ok b := by
  obtain ⟨kept, filtered, -⟩ := bind_ok_iff.mp run
  intro filter present
  rw [Option.mem_def.mp present] at filtered
  exact (Execution.keep_ok_iff.mp filtered).1

end Plan

/-! ### The query -/

structure Selection.Filters (selection : Selection) (condition : Condition) : Prop where
  columns : selection.columns = ["*"]
  condition : selection.condition = some condition
  groupBy : selection.groupBy = []
  orderBy : selection.orderBy = []
  limit : selection.limit = none
  offset : selection.offset = none

def Selection.search (table column t : Text) : Selection where
  columns := ["*"]
  table
  tableAlias := none
  condition := some ⟨column, .eq, .text t⟩
  groupBy := []
  orderBy := []
  limit := none
  offset := none

theorem Selection.filters_search (table column t : Text) :
    (Selection.search table column t).Filters ⟨column, .eq, .text t⟩ :=
  ⟨rfl, rfl, rfl, rfl, rfl, rfl⟩

def searchQuery (table column t : Text) : Text :=
  "SELECT * FROM " ++ table ++ " WHERE " ++ column ++ " = " ++ Token.quoted '\'' t ++ ";"

namespace Rendering

variable {s : Selection} {condition : Condition} {table column t w g : Text}

theorem isWritable_of_filters (filters : s.Filters condition) (namedTable : IsName s.table)
    (namedAlias : ∀ name ∈ s.tableAlias, IsName name) (refers : IsReference condition.column)
    (known : ∀ symbol, condition.operator ≠ .unknown symbol) (plain : IsLiteral condition.literal) :
    IsWritable s where
  columns_ne_nil := by simp [filters.columns]
  columns := by
    intro star member
    rw [filters.columns] at member
    obtain rfl := List.mem_singleton.mp member
    exact .all
  table := namedTable
  tableAlias := namedAlias
  condition := by
    rw [filters.condition]
    rintro _ ⟨⟩
    exact ⟨refers, known, plain⟩
  groupBy := by simp [filters.groupBy]
  orderBy := by simp [filters.orderBy]

theorem space_mem_gap : Text.ofString " " ∈ gap := by
  refine ⟨fun c member => ?_, by decide⟩
  obtain rfl := List.mem_singleton.mp member
  decide

theorem clauses_of_filters (filters : s.Filters condition) {named compared : Text}
    (source : named ∈ source s.table s.tableAlias)
    (comparison : compared ∈ comparison Text.IsShort condition) :
    " FROM " ++ named ++ " WHERE " ++ compared ∈ clauses Text.IsShort s Clause.all := by
  have space := space_mem_gap
  have opensFrom : Text.ofString "FROM" ∈ opening .from :=
    ⟨"FROM", ⟨"FROM".toList, rfl, by decide⟩, [], rfl, rfl⟩
  have opensWhere : Text.ofString "WHERE" ∈ opening .where :=
    ⟨"WHERE", ⟨"WHERE".toList, rfl, by decide⟩, [], rfl, rfl⟩
  have last : [] ∈ clauses Text.IsShort s [.group, .order, .limit, .offset] := by
    simp only [clauses, body?, filters.groupBy, filters.orderBy, filters.limit, filters.offset]
    exact rfl
  have filter : " WHERE " ++ compared ∈
      clauses Text.IsShort s [.where, .group, .order, .limit, .offset] := by
    rw [clauses, body?, filters.condition]
    exact ⟨_, ⟨_, ⟨_, ⟨" ", space, "WHERE", opensWhere, rfl⟩, " ", space, rfl⟩, _, comparison, rfl⟩,
      [], last, List.append_nil _⟩
  have whole : " FROM " ++ named ++ (" WHERE " ++ compared) ∈ clauses Text.IsShort s Clause.all :=
    ⟨_, ⟨_, ⟨_, ⟨" ", space, "FROM", opensFrom, rfl⟩, " ", space, rfl⟩, named, source, rfl⟩,
      _, filter, rfl⟩
  simpa [Text.ofString] using whole

theorem parse_of_filters (filters : s.Filters condition) (writable : IsWritable s)
    {named compared : Text} (source : named ∈ source s.table s.tableAlias)
    (comparison : compared ∈ comparison Text.IsShort condition) :
    Statement.parse ("SELECT * FROM " ++ named ++ " WHERE " ++ compared ++ ";") =
      .ok (some ⟨"SELECT * FROM " ++ named ++ " WHERE " ++ compared ++ ";", .select s⟩) := by
  have spelt : Text.ofString "SELECT" ∈ word .select := ⟨"SELECT".toList, rfl, by decide⟩
  have blank : [] ∈ blanks := fun _ member => absurd member List.not_mem_nil
  have listed : Text.ofString "*" ∈ separated (s.columns.map exactly) := by
    rw [filters.columns]
    exact rfl
  obtain ⟨_, _, _, _, writes, readable⟩ := exists_writes writable spelt space_mem_gap listed
    (clauses_of_filters filters source comparison) blank
  have answered := parseEnded_of_read? (writes.read? (readable fun _ => id))
  have parsed := (parse_framed (t := "*" ++ (" FROM " ++ named ++ " WHERE " ++ compared)) blank spelt
    space_mem_gap blank).2
  have whole : "SELECT * FROM " ++ named ++ " WHERE " ++ compared ++ ";" =
      "SELECT" ++ (" " ++ ("*" ++ (" FROM " ++ named ++ " WHERE " ++ compared))) ++
        [CodePoint.char ';'] := by
    simp [Text.ofString]
  rw [List.append_nil] at answered
  rw [List.nil_append, List.append_nil, answered] at parsed
  rw [whole]
  exact parsed

theorem parse_searchQuery (namedTable : IsName table) (namedColumn : IsName column)
    (plain : .char '\\' ∉ t) :
    Statement.parse (searchQuery table column t) =
      .ok (some ⟨searchQuery table column t, .select (.search table column t)⟩) := by
  have filters := Selection.filters_search table column t
  have writable := isWritable_of_filters filters namedTable (by simp [Selection.search])
    (.plain namedColumn) (by simp) (.text plain)
  have space := space_mem_gap
  have compared : column ++ " " ++ "=" ++ " " ++ Token.quoted '\'' t ∈
      comparison Text.IsShort ⟨column, .eq, .text t⟩ :=
    ⟨_, ⟨_, ⟨_, ⟨column, rfl, " ", space, rfl⟩, "=", rfl, rfl⟩, " ", space, rfl⟩, _, .inl rfl, rfl⟩
  have named : table ∈ source table none := rfl
  have parsed := parse_of_filters filters writable named compared
  have whole : searchQuery table column t = "SELECT * FROM " ++ table ++ " WHERE " ++
      (column ++ " " ++ "=" ++ " " ++ Token.quoted '\'' t) ++ ";" := by
    simp [searchQuery, Text.ofString]
  rw [whole]
  exact parsed

end Rendering

/-! ### Its answer -/

theorem Table.cells_numberedRows (table : Table) :
    table.numberedRows.map (·.cells) = table.rows := by
  unfold numberedRows
  rw [List.map_map]
  exact List.zipIdx_map_fst 0 table.rows

namespace Plan

theorem columnNames_of_all {plan : Plan}
    (all : plan.columns = List.range plan.table.columns.length) :
    plan.columnNames = plan.table.columns := by
  unfold columnNames
  rw [all]
  generalize plan.table.columns = names
  induction names with
  | nil => rfl
  | cons name names ih =>
    rw [List.length_cons, List.range_succ_eq_map, List.filterMap_cons, List.filterMap_map]
    exact congrArg (name :: ·) ih

def search (table : Table) (index : Nat) (t : Text) : Plan where
  table
  columns := List.range table.columns.length
  filter := some ⟨index, .eq, .text t⟩
  groupBy := []
  orderBy := []
  limit := none
  offset := none

variable {table : Table} {column : Text} {index : Nat}

theorem ofTable_search (plain : .char '.' ∉ column)
    (found : table.columnIndex? column = some index) (t : Text) :
    ofTable (.search table.name column t) table = .ok (search table index t) := by
  have place : resolve (.search table.name column t) table column = .ok index :=
    resolve_of_columnIndex? plain found
  have columns : (Selection.search table.name column t).columns.mapM
      (expand (.search table.name column t) table) = .ok [List.range table.columns.length] := rfl
  have condition : (Selection.search table.name column t).condition.mapM
      (resolveCondition (.search table.name column t) table) =
        .ok (some ⟨index, .eq, .text t⟩) :=
    bind_ok_iff.mpr ⟨_, bind_ok_iff.mpr ⟨index, place, rfl⟩, rfl⟩
  refine bind_ok_iff.mpr ⟨_, columns, bind_ok_iff.mpr ⟨_, condition, ?_⟩⟩
  exact congrArg Except.ok (by simp [Selection.search, search])

theorem isResolved_search (inside : index < table.columns.length) (t : Text) :
    (search table index t).IsResolved where
  columns := fun _ => List.mem_range.mp
  filter := by
    rintro _ ⟨⟩
    exact inside
  operator := by
    rintro _ ⟨⟩
    rfl
  groupBy := by simp [search]
  orderBy := by simp [search]

theorem forall_cells_iff {p : Value → Prop} :
    (∀ row ∈ table.numberedRows, ∀ v ∈ row.cells[index]?, p v) ↔
      ∀ cells ∈ table.rows, ∀ v ∈ cells[index]?, p v := by
  rw [← table.cells_numberedRows]
  simp only [List.forall_mem_map]

theorem isWritable_search (writable : table.ColumnIsWritable index) (t : Text) :
    (search table index t).IsWritable := by
  refine isWritable_of_filter rfl rfl ?_
  rintro _ ⟨⟩ row member cell there -
  exact ⟨forall_cells_iff.mpr writable row member cell there, rfl⟩

theorem columnIsWritable_of_run {t : Text} {out : List Row}
    (run : (search table index t).run = .ok out) : table.ColumnIsWritable index := by
  refine forall_cells_iff.mp fun row member cell there => ?_
  obtain ⟨b, accepted⟩ := accepts_of_run run _ rfl row member
  obtain ⟨_, same, satisfied⟩ := Filter.accepts_ok_iff.mp accepted
  obtain rfl := Option.some.inj (there.symm.trans same)
  rw [Value.satisfies_eq_text] at satisfied
  split at satisfied
  · assumption
  · cases satisfied

theorem selects_search (writable : table.ColumnIsWritable index) (t : Text) :
    ∀ row ∈ table.numberedRows, (search table index t).selects row =
      row.cells[index]?.any fun cell => decide (cell ≠ .null ∧ cell.display = t) := by
  intro row member
  have each := forall_cells_iff.mpr writable row member
  cases there : row.cells[index]? with
  | none => simp [selects, search, there]
  | some cell => simp [selects, search, there, Value.satisfies_eq_text, each cell there]

/-- A search has the rows whose cell is shown as its text, if all cells of the column can be
written, and none otherwise. -/
theorem run_search (inside : index < table.columns.length) (t : Text) :
    (table.ColumnIsWritable index → (search table index t).run = .ok
      (table.numberedRows.filter fun row =>
        row.cells[index]?.any fun cell => decide (cell ≠ .null ∧ cell.display = t))) ∧
    (¬table.ColumnIsWritable index →
      (search table index t).run = .error (.overlong .integer)) := by
  have resolved := isResolved_search inside t
  constructor
  · intro writable
    obtain ⟨out, run⟩ := exists_run resolved (isWritable_search writable t)
    rw [run, eq_of_run rfl rfl rfl rfl rfl run]
    exact congrArg _ (List.filter_congr (selects_search writable t))
  · intro unwritten
    rcases run_succeeds resolved with ⟨out, run⟩ | ⟨-, fails⟩
    · exact absurd (columnIsWritable_of_run run) unwritten
    · exact fails

end Plan

/-- A query for the rows whose cell in a column equals a text has all columns of those rows of the
table whose cell is there and is shown as the text, in the order of the table. Only where a cell of
the column cannot be written there is no answer. -/
theorem Catalog.run_searches {catalog : Catalog} {name : Text} {table : Table} {column t : Text}
    (found : catalog.table? name table.name = some table)
    (namedTable : Rendering.IsName table.name) (namedColumn : Rendering.IsName column)
    (present : column ∈ table.columns) (plain : .char '\\' ∉ t) :
    ∃ index selection rows, table.columnIndex? column = some index ∧
      Statement.parse (searchQuery table.name column t) =
        .ok (some ⟨searchQuery table.name column t, .select selection⟩) ∧
      (table.ColumnIsWritable index →
        catalog.run selection (some name) = .ok ⟨table.columns, rows, rows.length⟩) ∧
      (¬table.ColumnIsWritable index →
        catalog.run selection (some name) = .error (.execution (.overlong .integer))) ∧
      rows = (table.rows.filter fun row =>
        row[index]?.any fun cell => decide (cell ≠ .null ∧ cell.display = t)) ∧
      ∀ row ∈ table.rows, ∀ cell, row[index]? = some cell →
        (row ∈ rows ↔ cell ≠ .null ∧ cell.display = t) := by
  obtain ⟨index, inside, rfl⟩ := List.getElem_of_mem present
  have place := Table.columnIndex?_of_getElem? (List.getElem?_eq_getElem inside)
  have read := Rendering.parse_searchQuery namedTable namedColumn plain
  obtain ⟨database, foundDatabase, foundTable⟩ := Option.bind_eq_some_iff.mp found
  have pointless : .char '.' ∉ table.columns[index] := by
    intro point
    exact absurd (namedColumn.word _ point) (by decide)
  have planned : Plan.ofSelection (.search table.name table.columns[index] t) database =
      .ok (.search table index t) := by
    unfold Plan.ofSelection
    rw [show database.table? (Selection.search table.name _ t).table = _ from foundTable]
    exact Plan.ofTable_search pointless place t
  obtain ⟨answered, fails⟩ := Plan.run_search inside t
  refine ⟨index, _, _, place, read, fun writable => ?_,
    fun unwritten => run_eq_error foundDatabase planned (fails unwritten), rfl,
    fun row member cell there => ?_⟩
  · have cells : (table.numberedRows.filter fun row => row.cells[index]?.any fun cell =>
        decide (cell ≠ .null ∧ cell.display = t)).map (·.cells) = table.rows.filter fun row =>
          row[index]?.any fun cell => decide (cell ≠ .null ∧ cell.display = t) := by
      rw [← table.cells_numberedRows, List.filter_map]
      rfl
    refine run_ok_iff.mpr ⟨database, _, _, foundDatabase, planned, answered writable, ?_⟩
    rw [← cells, List.length_map, Plan.columnNames_of_all rfl]
    rfl
  · simp [member, there]

def Binary64.five : Binary64 := .finite false 5629499534213120 (-50)

def Table.readings : Table where
  name := "readings"
  columns := ["id", "shown"]
  rows := [[.integer 1, .text "5"], [.integer 2, .integer 5], [.integer 3, .real .five],
    [.integer 4, .text "5.0"], [.integer 5, .list [.integer 5]], [.integer 6, .null],
    [.integer 7, .bool true]]
  columns_distinct := by decide
  rows_aligned := by decide

theorem Catalog.run_searches_readings :
    ∃ selection, Statement.parse "SELECT * FROM readings WHERE shown = '5';" =
        .ok (some ⟨"SELECT * FROM readings WHERE shown = '5';", .select selection⟩) ∧
      Catalog.run ⟨[⟨"log", [.readings]⟩]⟩ selection (some "log") = .ok ⟨["id", "shown"],
        [[.integer 1, .text "5"], [.integer 2, .integer 5], [.integer 3, .real .five]], 3⟩ := by
  obtain ⟨index, selection, rows, place, read, run, -, rfl, -⟩ :=
    @run_searches ⟨[⟨"log", [.readings]⟩]⟩ "log" .readings "shown" "5" rfl (by decide +kernel)
      (by decide +kernel) (by decide) (by decide)
  obtain rfl : 1 = index := Option.some.inj place
  have writable : Table.readings.ColumnIsWritable 1 := by decide +kernel
  exact ⟨selection, read, (run writable).trans (by decide +kernel)⟩

end SqlConsole
