import SqlConsole.Proofs.Selection.Search
import SqlConsole.Proofs.Statement.Literal

/-!
# Rows that compare with a literal

A cell that is there is below a literal, level with it or above it, whatever kind of value it is, so
the rows of a table are partitioned by the operators of a condition (`Plan.run_partitions`). Only
what is not a number, or reads as that, compares with no number, and what compares as text has to be
written.
-/

namespace SqlConsole

/-! ### Cells and literals -/

theorem Number.exists_compare? {a b : Number} (left : a.isNumber = true)
    (right : b.isNumber = true) : ∃ o, a.compare? b = some o := by
  unfold compare?
  simp only [left, right, Bool.not_true, Bool.or_self, Bool.false_eq_true, if_false]
  split
  · exact ⟨_, rfl⟩
  split
  · exact ⟨_, rfl⟩
  · exact ⟨_, rfl⟩

theorem Binary64.ofInt_ne_nan (n : Int) (object : Nat) : ofInt n ≠ .nan object := by
  unfold ofInt ofRat
  split
  · exact ofMagnitude_ne_nan _ _ object
  · exact ofMagnitude_ne_nan _ _ object

theorem Number.isNumber_real {x : Binary64} (number : ∀ object, x ≠ .nan object) :
    (Number.real x).isNumber = true := by
  cases x with
  | nan object => exact absurd rfl (number object)
  | infinite negative => cases negative <;> rfl
  | finite negative m e => rfl

namespace Value

variable {cell literal : Value}

/-- Whether a cell is a number if it is a floating-point one, and is not a text that reads as none
if it is compared with a number. -/
def ComparesWith (cell literal : Value) : Prop :=
  (∀ object, cell ≠ .real (.nan object)) ∧
    (literal.number?.isSome → ∀ t, cell = .text t → ∀ object, Numeral.read? t ≠ some (.nan object))

theorem isNumber_of_number? {a : Number} (number : ∀ object, cell ≠ .real (.nan object))
    (same : cell.number? = some a) : a.isNumber = true := by
  cases cell with
  | integer n =>
    cases same
    rfl
  | real x =>
    cases same
    exact Number.isNumber_real fun object none => number object (congrArg _ none)
  | _ => cases same

theorem isNumber_of_readNumber? {a : Number}
    (number : ∀ t, cell = .text t → ∀ object, Numeral.read? t ≠ some (.nan object))
    (same : cell.readNumber? = some a) : a.isNumber = true := by
  cases cell with
  | text t =>
    obtain ⟨x, read, rfl⟩ := Option.map_eq_some_iff.mp same
    exact Number.isNumber_real fun object none => number t rfl object (none ▸ read)
  | bool b =>
    cases same
    exact Number.isNumber_real (Binary64.ofInt_ne_nan _)
  | _ => cases same

theorem IsLiteral.ne_null (given : literal.IsLiteral) : literal ≠ .null := by
  rintro rfl
  exact given.elim id id

theorem IsLiteral.ne_nan (given : literal.IsLiteral) (object : Nat) :
    literal ≠ .real (.nan object) := by
  rintro rfl
  exact given.elim id fun number => number object rfl

theorem exists_order (compares : cell.ComparesWith literal) (given : literal.IsLiteral) :
    ∃ o, (cell.sides literal).compare? = some o := by
  obtain ⟨number, numeral⟩ := compares
  cases right : literal.number? with
  | none =>
    unfold sides
    rw [right]
    cases cell.number? with
    | none => exact ⟨_, rfl⟩
    | some a => exact ⟨_, rfl⟩
  | some b =>
    have rightNumber := isNumber_of_number? given.ne_nan right
    have numerals := numeral (by rw [right]; rfl)
    unfold sides
    rw [right]
    cases left : cell.number? with
    | some a => exact Number.exists_compare? (isNumber_of_number? number left) rightNumber
    | none =>
      dsimp only
      cases reads : cell.readNumber? with
      | none => exact ⟨_, rfl⟩
      | some a => exact Number.exists_compare? (isNumber_of_readNumber? numerals reads) rightNumber

/-! ### What the operators accept -/

theorem not_satisfies_null (op : Operator) (literal : Value) :
    Value.null.satisfies op literal ≠ .ok true := by
  simp [satisfies, isNull]

theorem CanCompare.order {op : Operator} {o : Option Ordering} {b : Bool}
    (compares : cell.CanCompare .eq literal) (accepts : op.accepts? o = some b) :
    cell.CanCompare op literal := by
  have same : cell.comparesTexts op literal = cell.comparesTexts .eq literal := by
    unfold comparesTexts
    cases op with
    | like => cases accepts
    | _ => cases cell.sides literal <;> rfl
  unfold CanCompare at compares ⊢
  rwa [same]

theorem satisfies_of_accepts? {op : Operator} {b : Bool} (present : cell ≠ .null)
    (given : literal ≠ .null) (compares : cell.CanCompare .eq literal)
    (accepts : op.accepts? (cell.sides literal).compare? = some b) :
    cell.satisfies op literal = .ok b := by
  have there : (cell.isNull || literal.isNull) = false := by
    cases cell <;> cases literal <;> simp_all [isNull]
  have written : ¬(cell.comparesTexts op literal &&
      !(cell.isWritable && literal.isWritable)) = true := by
    intro unwritten
    obtain ⟨texts, fails⟩ := Bool.and_eq_true_iff.mp unwritten
    simp [compares.order accepts texts] at fails
  unfold satisfies
  rw [there, if_neg Bool.false_ne_true, if_neg written]
  cases op with
  | like => cases accepts
  | _ => simp only [accepts]

end Value

/-- Whether what the operators with a literal select fits together, where a cell is there or
not. -/
structure Operator.Partition (cell literal : Value) (selects : Operator → Prop) : Prop where
  missing : cell = .null → ∀ op, ¬selects op
  order : cell ≠ .null → cell.ComparesWith literal → ∃! op, op ∈ [.lt, .eq, .gt] ∧ selects op
  atMost : selects .le ↔ selects .lt ∨ selects .eq
  atLeast : selects .ge ↔ selects .gt ∨ selects .eq
  apart : selects .ne ↔ cell ≠ .null ∧ ¬selects .eq

theorem Operator.partition_satisfies {cell literal : Value} (given : literal.IsLiteral)
    (compares : cell.CanCompare .eq literal) :
    Partition cell literal fun op => cell.satisfies op literal = .ok true := by
  by_cases missing : cell = .null
  · subst missing
    have none := fun op => Value.not_satisfies_null op literal
    exact ⟨fun _ => none, by simp, by simp [none], by simp [none], by simp [none]⟩
  have accepted : ∀ op b, op.accepts? (cell.sides literal).compare? = some b →
      cell.satisfies op literal = .ok b :=
    fun op b => Value.satisfies_of_accepts? missing given.ne_null compares
  have lt := accepted .lt _ rfl
  have eq := accepted .eq _ rfl
  have gt := accepted .gt _ rfl
  have le := accepted .le _ rfl
  have ge := accepted .ge _ rfl
  have ne := accepted .ne _ rfl
  refine ⟨fun none => absurd none missing, fun _ ordered => ?_, ?_, ?_, ?_⟩
  · obtain ⟨o, order⟩ := Value.exists_order ordered given
    rw [order] at lt eq gt
    cases o with
    | lt => exact ⟨.lt, by simp [lt], by simp [eq, gt]⟩
    | eq => exact ⟨.eq, by simp [eq], by simp [lt, gt]⟩
    | gt => exact ⟨.gt, by simp [gt], by simp [lt, eq]⟩
  · simp [le, lt, eq]
  · simp [ge, gt, eq]
  · simp [ne, eq, missing]

/-! ### Conditions of selections and plans -/

def Selection.filtered (selection : Selection) (condition : Condition) : Selection :=
  { selection with condition := some condition }

def Plan.filtered (plan : Plan) (filter : Filter) : Plan := { plan with filter := some filter }

def Selection.whole (table : Text) : Selection where
  columns := ["*"]
  table
  tableAlias := none
  condition := none
  groupBy := []
  orderBy := []
  limit := none
  offset := none

namespace Plan

variable {selection : Selection} {table : Table} {plan : Plan} {out : List Row} {column : Text}
  {index : Nat} {op : Operator} {literal : Value}

def whole (table : Table) : Plan where
  table
  columns := List.range table.columns.length
  filter := none
  groupBy := []
  orderBy := []
  limit := none
  offset := none

theorem ofTable_whole (table : Table) : ofTable (.whole table.name) table = .ok (whole table) := by
  refine bind_ok_iff.mpr ⟨[List.range table.columns.length], rfl, ?_⟩
  exact congrArg Except.ok (by simp [Selection.whole, whole])

theorem ofTable_filtered (planned : ofTable selection table = .ok plan)
    (resolved : resolve selection table column = .ok index) (op : Operator) (literal : Value) :
    ofTable (selection.filtered ⟨column, op, literal⟩) table =
      .ok (plan.filtered ⟨index, op, literal⟩) := by
  obtain ⟨columns, expanded, planned⟩ := bind_ok_iff.mp planned
  obtain ⟨_, -, planned⟩ := bind_ok_iff.mp planned
  obtain ⟨groupBy, grouped, planned⟩ := bind_ok_iff.mp planned
  obtain ⟨orderBy, ordered, ⟨⟩⟩ := bind_ok_iff.mp planned
  have condition : (selection.filtered ⟨column, op, literal⟩).condition.mapM
      (resolveCondition (selection.filtered ⟨column, op, literal⟩) table) =
        .ok (some ⟨index, op, literal⟩) :=
    bind_ok_iff.mpr ⟨_, bind_ok_iff.mpr ⟨index, resolved, rfl⟩, rfl⟩
  exact bind_ok_iff.mpr ⟨columns, expanded, bind_ok_iff.mpr ⟨_, condition,
    bind_ok_iff.mpr ⟨groupBy, grouped, bind_ok_iff.mpr ⟨orderBy, ordered, rfl⟩⟩⟩⟩

theorem isResolved_whole (table : Table) : (whole table).IsResolved where
  columns := fun _ => List.mem_range.mp
  filter := by simp [whole]
  operator := by simp [whole]
  groupBy := List.forall_mem_nil _
  orderBy := List.forall_mem_nil _

theorem IsResolved.filtered (resolved : plan.IsResolved)
    (inside : index < plan.table.columns.length) (known : op.isKnown = true) (literal : Value) :
    (plan.filtered ⟨index, op, literal⟩).IsResolved where
  columns := resolved.columns
  filter := by
    rintro _ ⟨⟩
    exact inside
  operator := by
    rintro _ ⟨⟩
    exact known
  groupBy := resolved.groupBy
  orderBy := resolved.orderBy

theorem selects_filtered_iff {row : Row} {cell : Value} (there : row.cells[index]? = some cell) :
    (plan.filtered ⟨index, op, literal⟩).selects row = true ↔
      cell.satisfies op literal = .ok true := by
  simp [selects, filtered, there]

end Plan

section

variable {catalog : Catalog} {selection : Selection} {name : Text} {table : Table} {plan : Plan}
  {column : Text} {index : Nat} {op : Operator} {literal : Value}

theorem Plan.ofSelection_filtered (found : catalog.table? name selection.table = some table)
    (planned : ofTable selection table = .ok plan)
    (resolved : resolve selection table column = .ok index) :
    ∃ database, catalog.database? name = some database ∧
      ofSelection (selection.filtered ⟨column, op, literal⟩) database =
        .ok (plan.filtered ⟨index, op, literal⟩) := by
  obtain ⟨database, foundDatabase, foundTable⟩ := Option.bind_eq_some_iff.mp found
  refine ⟨database, foundDatabase, ?_⟩
  unfold ofSelection
  rw [show database.table? (selection.filtered _).table = _ from foundTable]
  exact ofTable_filtered planned resolved op literal

theorem Catalog.run_filtered {out : List Row}
    (found : catalog.table? name selection.table = some table)
    (planned : Plan.ofTable selection table = .ok plan)
    (resolved : Plan.resolve selection table column = .ok index)
    (run : (plan.filtered ⟨index, op, literal⟩).run = .ok out) :
    catalog.run (selection.filtered ⟨column, op, literal⟩) (some name) =
      .ok ⟨plan.columnNames, out.map (·.cells), out.length⟩ := by
  obtain ⟨database, foundDatabase, ofDatabase⟩ :=
    Plan.ofSelection_filtered found planned resolved
  exact run_ok_iff.mpr ⟨database, _, out, foundDatabase, ofDatabase, run, rfl⟩

end

/-- The operators of a condition on a column partition the rows of a table. A row without a cell in
the column is selected by none of them, any other one by just one of the three orders. Only where a
cell has to be written that cannot be there are no rows. -/
theorem Plan.run_partitions {table : Table} {index : Nat} {literal : Value}
    (inside : index < table.columns.length) (read : literal.IsReadLiteral) :
    ∃ rows : Operator → List Row,
      (∀ op, op.isKnown = true → (rows op).Sublist table.numberedRows ∧
        SucceedsIf (∀ row ∈ table.numberedRows, Filter.CanCompare ⟨index, op, literal⟩ row)
          (.overlong .integer) ((whole table).filtered ⟨index, op, literal⟩).run ∧
        ∀ out, ((whole table).filtered ⟨index, op, literal⟩).run = .ok out → out = rows op ∧
          ∀ (catalog : Catalog) (name column : Text),
            catalog.table? name table.name = some table →
            resolve (.whole table.name) table column = .ok index →
            catalog.run ((Selection.whole table.name).filtered ⟨column, op, literal⟩) (some name) =
              .ok ⟨table.columns, (rows op).map (·.cells), (rows op).length⟩) ∧
      ∀ row ∈ table.numberedRows, ∀ cell, row.cells[index]? = some cell →
        cell.CanCompare .eq literal →
          Operator.Partition cell literal fun op => row ∈ rows op := by
  refine ⟨fun op => table.numberedRows.filter ((whole table).filtered ⟨index, op, literal⟩).selects,
    fun op known => ⟨List.filter_sublist, ?_, fun out run => ?_⟩,
    fun row member cell there compares => ?_⟩
  · refine (run_succeeds ((isResolved_whole table).filtered inside known literal)).of_imp ?_
    intro compares
    refine isWritable_of_filter rfl rfl ?_
    rintro _ ⟨⟩
    exact compares
  · obtain rfl := eq_of_run rfl rfl rfl rfl rfl run
    refine ⟨rfl, fun catalog name column found resolved => ?_⟩
    have answered := Catalog.run_filtered found (ofTable_whole table) resolved run
    rwa [columnNames_of_all rfl] at answered
  · have same : (fun op => row ∈ table.numberedRows.filter
        ((whole table).filtered ⟨index, op, literal⟩).selects) =
        fun op => cell.satisfies op literal = .ok true := by
      funext op
      rw [List.mem_filter, selects_filtered_iff there, eq_iff_iff]
      exact and_iff_right member
    rw [same]
    exact Operator.partition_satisfies read.isLiteral compares

/-- Texts, numbers, a list, a truth value and a missing cell beside the number five. -/
theorem Plan.run_partitions_readings :
    ∃ rows : Operator → List Row,
      (∀ op, op.isKnown = true →
        ((whole .readings).filtered ⟨1, op, .integer 5⟩).run = .ok (rows op)) ∧
      ∀ row ∈ Table.readings.numberedRows, ∀ cell, row.cells[1]? = some cell →
        Operator.Partition cell (.integer 5) fun op => row ∈ rows op := by
  have read : Value.IsReadLiteral (.integer 5) :=
    ⟨"SELECT * FROM readings WHERE shown < 5;", ⟨"SELECT * FROM readings WHERE shown < 5;",
      .select ((Selection.whole "readings").filtered ⟨"shown", .lt, .integer 5⟩)⟩, _, _,
      by decide +kernel, rfl, rfl, rfl⟩
  obtain ⟨rows, answered, partitioned⟩ :=
    @run_partitions .readings 1 (.integer 5) (by decide) read
  have compares : ∀ row ∈ Table.readings.numberedRows, ∀ cell ∈ row.cells[1]?, ∀ op,
      cell.CanCompare op (.integer 5) := by
    have writable : ∀ row ∈ Table.readings.numberedRows, ∀ cell ∈ row.cells[1]?,
        cell.isWritable = true := by decide +kernel
    exact fun row member cell there op _ => ⟨writable row member cell there, by decide +kernel⟩
  refine ⟨rows, fun op known => ?_, fun row member cell there =>
    partitioned row member cell there (compares row member cell there .eq)⟩
  obtain ⟨-, succeeds, ran⟩ := answered op known
  obtain ⟨out, run⟩ := succeeds.exists_ok fun row member cell there => compares row member cell there op
  rw [run, (ran out run).1]

end SqlConsole
