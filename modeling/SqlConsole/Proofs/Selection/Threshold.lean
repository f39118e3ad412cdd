import SqlConsole.Proofs.Selection.Comparison

/-!
# Thresholds of sorted rows

Among cells that are all numbers or all texts, the operators of a condition agree with the order
that rows are sorted in (`Value.exists_order_of_kindred`). So the sorted rows below a literal and
those from it on make up all sorted rows, in this order (`Catalog.run_splits`).
-/

namespace SqlConsole

/-! ### One order -/

theorem Number.isNumber_of_compare? {a b : Number} {o : Ordering} (order : a.compare? b = some o) :
    a.isNumber = true ∧ b.isNumber = true := by
  unfold compare? at order
  split at order
  · cases order
  · rename_i numbers
    simpa using numbers

theorem Number.exists_order {a b : Number} (left : a.isNumber = true) (right : b.isNumber = true) :
    ∃ o, a.compare? b = some o ∧ o.isLE = a.le b ∧ o.isGE = b.le a := by
  obtain ⟨o, order⟩ := exists_compare? left right
  have less := compare?_eq_lt_iff left right
  have level := compare?_eq_eq_iff_le left right
  rw [order] at less level
  refine ⟨o, order, ?_⟩
  cases o with
  | lt =>
    obtain ⟨atMost, apart⟩ := less.mp rfl
    simp [atMost, apart]
  | eq =>
    obtain ⟨atMost, atLeast⟩ := level.mp rfl
    simp [atMost, atLeast]
  | gt =>
    have atLeast : ¬a.le b := by
      intro atMost
      by_cases both : b.le a
      · cases level.mpr ⟨atMost, both⟩
      · cases less.mpr ⟨atMost, both⟩
    have total := Bool.or_eq_true_iff.mp (Place.le_total a.place b.place)
    simp [atLeast, show b.le a = true from total.resolve_left atLeast]

theorem SortKey.le_of_not_le {a b : SortKey} (later : ¬a.le b) : b.le a :=
  (Bool.or_eq_true_iff.mp (le_total a b)).resolve_left later

theorem SortKey.Below.asymm {a b : SortKey} (first : a.Below b) : ¬b.Below a := by
  intro second
  cases first with
  | numbers less =>
    obtain ⟨left, right⟩ := Number.isNumber_of_compare? less
    cases second with
    | numbers more =>
      exact ((Number.compare?_eq_lt_iff left right).mp less).2
        ((Number.compare?_eq_lt_iff right left).mp more).1
  | texts less =>
    cases second with
    | texts more =>
      rw [Text.compare_swap, more] at less
      cases less
  | _ => cases second

theorem SortKey.Before.asymm {direction : Direction} {a b : SortKey}
    (first : SortKey.Before direction a b) : ¬SortKey.Before direction b a := by
  cases direction
  · exact Below.asymm first
  · exact Below.asymm first

theorem Row.Precedes.asymm {keys : List (Nat × Direction)} {a b : Row}
    (first : Row.Precedes keys a b) : ¬Row.Precedes keys b a := by
  intro second
  induction first with
  | level earlier =>
    cases second with
    | level later => exact Nat.lt_asymm earlier later
  | decided left right before =>
    cases second with
    | decided right' left' after =>
      obtain rfl := Option.some.inj (left.symm.trans left')
      obtain rfl := Option.some.inj (right.symm.trans right')
      exact before.asymm after
    | tied right' left' same =>
      obtain rfl := Option.some.inj (left.symm.trans left')
      obtain rfl := Option.some.inj (right.symm.trans right')
      exact before.not_level same.symm
  | tied left right same _ ih =>
    cases second with
    | decided right' left' after =>
      obtain rfl := Option.some.inj (left.symm.trans left')
      obtain rfl := Option.some.inj (right.symm.trans right')
      exact after.not_level same.symm
    | tied _ _ _ later => exact ih later

namespace Value

variable {v w k : Value}

/-- Whether two values are both numbers or both texts. -/
def Kindred (v k : Value) : Prop := v.IsNumber ∧ k.IsNumber ∨ v.IsText ∧ k.IsText

theorem IsNumber.exists_number? (number : v.IsNumber) :
    ∃ a, v.number? = some a ∧ v.sortKey = .number a ∧ a.isNumber = true := by
  cases v with
  | integer n => exact ⟨_, rfl, rfl, rfl⟩
  | real x => exact ⟨_, rfl, rfl, Number.isNumber_real number⟩
  | _ => exact absurd number id

theorem IsText.exists_text (text : v.IsText) : ∃ t, v = .text t := by
  cases v with
  | text t => exact ⟨t, rfl⟩
  | _ => exact absurd text id

theorem Kindred.isLiteral (kindred : v.Kindred k) : v.IsLiteral ∧ k.IsLiteral := by
  rcases kindred with ⟨left, right⟩ | ⟨left, right⟩
  · exact ⟨.inr left, .inr right⟩
  · exact ⟨.inl left, .inl right⟩

theorem IsLiteral.sortKey_isComparable (given : v.IsLiteral) : v.sortKey.isComparable :=
  Value.sortKey_isComparable given.ne_nan

theorem Kindred.sides_eq_numbers (left : v.IsNumber) (right : k.IsNumber) :
    ∃ a b, v.sides k = .numbers a b ∧ v.sortKey = .number a ∧ k.sortKey = .number b ∧
      a.isNumber = true ∧ b.isNumber = true := by
  obtain ⟨a, same, keyV, number⟩ := left.exists_number?
  obtain ⟨b, other, keyK, otherNumber⟩ := right.exists_number?
  refine ⟨a, b, ?_, keyV, keyK, number, otherNumber⟩
  unfold sides
  rw [same, other]

theorem Kindred.canCompare (kindred : v.Kindred k) : v.CanCompare .eq k := by
  rcases kindred with ⟨left, right⟩ | ⟨left, right⟩
  · obtain ⟨a, b, sides, -⟩ := sides_eq_numbers left right
    intro texts
    simp [comparesTexts, sides] at texts
  · obtain ⟨s, rfl⟩ := left.exists_text
    obtain ⟨t, rfl⟩ := right.exists_text
    exact fun _ => ⟨rfl, rfl⟩

theorem Kindred.number?_or_isWritable (kindred : v.Kindred k) :
    v.number?.isSome = true ∨ v.isWritable = true := by
  rcases kindred with ⟨left, -⟩ | ⟨left, -⟩
  · obtain ⟨a, same, -⟩ := left.exists_number?
    exact .inl (by rw [same]; rfl)
  · obtain ⟨s, rfl⟩ := left.exists_text
    exact .inr rfl

theorem exists_order_of_kindred (kindred : v.Kindred k) :
    ∃ o, (v.sides k).compare? = some o ∧ (o.isLE = v.sortKey.le k.sortKey) ∧
      (o.isGE = k.sortKey.le v.sortKey) := by
  rcases kindred with ⟨left, right⟩ | ⟨left, right⟩
  · obtain ⟨a, b, sides, keyV, keyK, number, otherNumber⟩ :=
      Kindred.sides_eq_numbers left right
    rw [sides, keyV, keyK]
    exact Number.exists_order number otherNumber
  · obtain ⟨s, rfl⟩ := left.exists_text
    obtain ⟨t, rfl⟩ := right.exists_text
    refine ⟨s.compare t, rfl, rfl, ?_⟩
    simp only [sortKey, number?, written, SortKey.le]
    rw [Text.compare_swap t s]
    cases s.compare t <;> rfl

theorem satisfies_iff_le (kindred : v.Kindred k) :
    (v.satisfies .lt k = .ok true ↔ ¬k.sortKey.le v.sortKey) ∧
      (v.satisfies .ge k = .ok true ↔ k.sortKey.le v.sortKey) ∧
      (v.satisfies .le k = .ok true ↔ v.sortKey.le k.sortKey) ∧
      (v.satisfies .gt k = .ok true ↔ ¬v.sortKey.le k.sortKey) := by
  obtain ⟨o, order, atMost, atLeast⟩ := exists_order_of_kindred kindred
  obtain ⟨left, right⟩ := kindred.isLiteral
  have accepted : ∀ op b, op.accepts? (v.sides k).compare? = some b → v.satisfies op k = .ok b :=
    fun op b => satisfies_of_accepts? left.ne_null right.ne_null kindred.canCompare
  rw [order] at accepted
  rw [← atMost, ← atLeast, accepted .lt _ rfl, accepted .ge _ rfl, accepted .le _ rfl,
    accepted .gt _ rfl]
  cases o <;> decide

end Value

/-- Whether two operators part the values: what is not below a literal is above it. -/
inductive Operator.Parts : Operator → Operator → Prop
  | lower : Parts .lt .ge
  | upper : Parts .le .gt

namespace Operator.Parts

variable {below above : Operator} {v w k : Value}

theorem isKnown (parts : Parts below above) : below.isKnown = true ∧ above.isKnown = true := by
  cases parts <;> exact ⟨rfl, rfl⟩

theorem satisfies_iff_not (parts : Parts below above) (kindred : v.Kindred k) :
    v.satisfies above k = .ok true ↔ ¬v.satisfies below k = .ok true := by
  obtain ⟨lt, ge, le, gt⟩ := Value.satisfies_iff_le kindred
  cases parts with
  | lower => rw [ge, lt, not_not]
  | upper => rw [gt, le]

theorem sortKey_below (parts : Parts below above) (left : v.Kindred k) (right : w.Kindred k)
    (under : v.satisfies below k = .ok true) (beyond : w.satisfies above k = .ok true) :
    v.sortKey.Below w.sortKey := by
  rw [SortKey.below_iff left.isLiteral.1.sortKey_isComparable
    right.isLiteral.1.sortKey_isComparable]
  obtain ⟨lt, -, le, -⟩ := Value.satisfies_iff_le left
  obtain ⟨-, ge, -, gt⟩ := Value.satisfies_iff_le right
  cases parts with
  | lower =>
    rw [lt] at under
    rw [ge] at beyond
    exact ⟨SortKey.le_trans (SortKey.le_of_not_le under) beyond,
      fun after => under (SortKey.le_trans beyond after)⟩
  | upper =>
    rw [le] at under
    rw [gt] at beyond
    exact ⟨SortKey.le_trans under (SortKey.le_of_not_le beyond),
      fun before => beyond (SortKey.le_trans before under)⟩

end Operator.Parts

/-! ### Sorted rows that are split -/

theorem Execution.orderRows_split {keys : List (Nat × Direction)}
    {rows whole below above : List Row} {p : Row → Bool}
    (ordered : rows.Pairwise fun a b => a.id < b.id)
    (numbers : ∀ key ∈ keys, ∀ row ∈ rows, row.IsComparable key.1)
    (apart : ∀ a ∈ rows, ∀ b ∈ rows, p a = true → p b = false → Row.Precedes keys a b)
    (sorted : orderRows keys rows = .ok whole)
    (sortedBelow : orderRows keys (rows.filter p) = .ok below)
    (sortedAbove : orderRows keys (rows.filter fun row => !p row) = .ok above) :
    below ++ above = whole := by
  have part : ∀ (q : Row → Bool) (out : List Row), orderRows keys (rows.filter q) = .ok out →
      out.Pairwise (Row.Precedes keys) := fun q out =>
    orderRows_precedes (ordered.filter q)
      fun key present row member => numbers key present row (List.mem_filter.mp member).1
  have permBelow := orderRows_perm sortedBelow
  have permAbove := orderRows_perm sortedAbove
  have joined : (below ++ above).Pairwise (Row.Precedes keys) := by
    refine List.pairwise_append.mpr ⟨part _ _ sortedBelow, part _ _ sortedAbove,
      fun a memberA b memberB => ?_⟩
    obtain ⟨inA, under⟩ := List.mem_filter.mp (permBelow.mem_iff.mp memberA)
    obtain ⟨inB, beyond⟩ := List.mem_filter.mp (permAbove.mem_iff.mp memberB)
    exact apart a inA b inB under (by simpa using beyond)
  -- Two lists of the same rows in one strict order are equal.
  refine List.Perm.eq_of_pairwise (fun a b _ _ first second => absurd second first.asymm) joined
    (orderRows_precedes ordered numbers sorted) ?_
  exact ((permBelow.append permAbove).trans (List.filter_append_perm p rows)).trans
    (orderRows_perm sorted).symm

namespace Plan

variable {plan : Plan} {index : Nat} {literal : Value} {below above : Operator}

/-- The rows of a plan that neither groups nor pages are those that it selects, sorted and
projected. -/
theorem exists_sorted_of_run {out : List Row} (ungrouped : plan.groupBy = [])
    (unlimited : plan.limit = none) (unskipped : plan.offset = none) (run : plan.run = .ok out) :
    ∃ sorted, Execution.orderRows plan.orderBy (plan.table.numberedRows.filter plan.selects) =
        .ok sorted ∧ List.Forall₂ (Row.IsProjection plan.columns) sorted out := by
  obtain ⟨grouped, sorted, groups, order, projected⟩ := steps_of_run run
  rw [ungrouped] at groups
  cases groups
  rw [page_eq_self unlimited unskipped] at projected
  exact ⟨sorted, order, projected⟩

theorem isProjection_unique (columns : List Nat) :
    Relator.RightUnique (Row.IsProjection columns) := by
  intro row first second left right
  exact Except.ok.inj ((Row.project_ok_iff.mpr left).symm.trans (Row.project_ok_iff.mpr right))

/-! ### Rows below and above a literal -/

def HasKindred (index : Nat) (literal : Value) (row : Row) : Prop :=
  ∃ cell, row.cells[index]? = some cell ∧ cell.Kindred literal

theorem hasKindred_of_rows {table : Table} (inside : index < table.columns.length)
    (kindred : ∀ cells ∈ table.rows, ∀ cell, cells[index]? = some cell → cell.Kindred literal) :
    ∀ row ∈ table.numberedRows, HasKindred index literal row := by
  intro row member
  have within : index < row.cells.length := Table.length_cells member ▸ inside
  have there := List.getElem?_eq_getElem within
  have inTable := List.mem_of_getElem? (Table.mem_numberedRows.mp member)
  exact ⟨_, there, kindred row.cells inTable _ there⟩

variable {a b row : Row}

theorem HasKindred.isComparable (kindred : HasKindred index literal row) :
    row.IsComparable index := by
  obtain ⟨cell, there, same⟩ := kindred
  intro object none
  exact same.isLiteral.1.ne_nan object (Option.some.inj (there.symm.trans none))

theorem HasKindred.hasKey (kindred : HasKindred index literal row) : row.HasKey index := by
  obtain ⟨cell, there, same⟩ := kindred
  intro v found
  obtain rfl := Option.some.inj (there.symm.trans found)
  exact same.number?_or_isWritable

theorem HasKindred.canCompare (kindred : HasKindred index literal row)
    (parts : below.Parts above) :
    Filter.CanCompare ⟨index, below, literal⟩ row ∧
      Filter.CanCompare ⟨index, above, literal⟩ row := by
  obtain ⟨cell, there, same⟩ := kindred
  have compares : ∀ op, (op = below ∨ op = above) → Filter.CanCompare ⟨index, op, literal⟩ row := by
    intro op either v found
    obtain rfl := Option.some.inj (there.symm.trans found)
    have order : ∃ b, op.accepts? none = some b := by
      rcases either with rfl | rfl <;> cases parts <;> exact ⟨_, rfl⟩
    obtain ⟨b, accepts⟩ := order
    exact same.canCompare.order accepts
  exact ⟨compares below (.inl rfl), compares above (.inr rfl)⟩

theorem HasKindred.selects_above (kindred : HasKindred index literal row)
    (parts : below.Parts above) :
    (plan.filtered ⟨index, above, literal⟩).selects row =
      !(plan.filtered ⟨index, below, literal⟩).selects row := by
  obtain ⟨cell, there, same⟩ := kindred
  rw [Bool.eq_iff_iff, selects_filtered_iff there, parts.satisfies_iff_not same,
    Bool.not_eq_true', ← Bool.not_eq_true, selects_filtered_iff there]

theorem precedes_of_parts (parts : below.Parts above) (left : HasKindred index literal a)
    (right : HasKindred index literal b)
    (under : (plan.filtered ⟨index, below, literal⟩).selects a = true)
    (beyond : (plan.filtered ⟨index, above, literal⟩).selects b = true) :
    Row.Precedes [(index, .ascending)] a b := by
  obtain ⟨v, thereA, kindredA⟩ := left
  obtain ⟨w, thereB, kindredB⟩ := right
  rw [selects_filtered_iff thereA] at under
  rw [selects_filtered_iff thereB] at beyond
  exact .decided thereA thereB (parts.sortKey_below kindredA kindredB under beyond)

/-- A plan that is sorted by a column of one kind has nothing to write, also with a filter that can
compare the cells of this column. -/
theorem isWritable_of_kindred (unfiltered : plan.filter = none) (ungrouped : plan.groupBy = [])
    (sorted : plan.orderBy = [(index, .ascending)])
    (each : ∀ row ∈ plan.table.numberedRows, HasKindred index literal row) :
    plan.IsWritable ∧ ∀ op, (∀ row ∈ plan.table.numberedRows,
      Filter.CanCompare ⟨index, op, literal⟩ row) →
        (plan.filtered ⟨index, op, literal⟩).IsWritable := by
  have keys : ∀ key ∈ plan.orderBy, ∀ row ∈ plan.table.numberedRows, row.HasKey key.1 := by
    rw [sorted]
    exact List.forall_mem_singleton.mpr fun row member => (each row member).hasKey
  refine ⟨⟨by simp [unfiltered], by simp [ungrouped], keys⟩, fun op compares => ?_⟩
  refine ⟨?_, ?_, keys⟩
  · rintro _ ⟨⟩
    exact compares
  · show ∀ index ∈ plan.groupBy, _
    simp [ungrouped]

theorem exists_runs_append {whole : List Row} (resolved : plan.IsResolved)
    (unfiltered : plan.filter = none) (ungrouped : plan.groupBy = [])
    (sorted : plan.orderBy = [(index, .ascending)])
    (unlimited : plan.limit = none) (unskipped : plan.offset = none)
    (kindred : ∀ cells ∈ plan.table.rows, ∀ cell, cells[index]? = some cell → cell.Kindred literal)
    (run : plan.run = .ok whole) (parts : below.Parts above) :
    ∃ under beyond, (plan.filtered ⟨index, below, literal⟩).run = .ok under ∧
      (plan.filtered ⟨index, above, literal⟩).run = .ok beyond ∧ under ++ beyond = whole := by
  have inside : index < plan.table.columns.length :=
    resolved.orderBy (index, .ascending) (by simp [sorted])
  have each := hasKindred_of_rows inside kindred
  obtain ⟨knownBelow, knownAbove⟩ := parts.isKnown
  have writable := (isWritable_of_kindred unfiltered ungrouped sorted each).2
  obtain ⟨under, runBelow⟩ := exists_run (resolved.filtered inside knownBelow literal)
    (writable below fun row member => ((each row member).canCompare parts).1)
  obtain ⟨beyond, runAbove⟩ := exists_run (resolved.filtered inside knownAbove literal)
    (writable above fun row member => ((each row member).canCompare parts).2)
  refine ⟨under, beyond, runBelow, runAbove, ?_⟩
  obtain ⟨all, order, projected⟩ := exists_sorted_of_run ungrouped unlimited unskipped run
  obtain ⟨low, orderBelow, projectedBelow⟩ := @exists_sorted_of_run
    (plan.filtered ⟨index, below, literal⟩) _ ungrouped unlimited unskipped runBelow
  obtain ⟨high, orderAbove, projectedAbove⟩ := @exists_sorted_of_run
    (plan.filtered ⟨index, above, literal⟩) _ ungrouped unlimited unskipped runAbove
  have every : plan.table.numberedRows.filter plan.selects = plan.table.numberedRows := by
    simp [selects, unfiltered]
  have others : plan.table.numberedRows.filter
      (plan.filtered ⟨index, above, literal⟩).selects = plan.table.numberedRows.filter
        fun row => !(plan.filtered ⟨index, below, literal⟩).selects row :=
    List.filter_congr fun row member => (each row member).selects_above parts
  rw [every] at order
  have split : low ++ high = all := by
    refine Execution.orderRows_split plan.table.numberedRows_ordered ?_ ?_ order orderBelow
      (others ▸ orderAbove)
    · rw [sorted]
      exact List.forall_mem_singleton.mpr fun row member => (each row member).isComparable
    · intro a memberA b memberB under beyond
      rw [sorted]
      refine precedes_of_parts parts (each a memberA) (each b memberB) under ?_
      rw [(each b memberB).selects_above parts, beyond]
      rfl
  have joined : List.Forall₂ (Row.IsProjection plan.columns) (low ++ high) (under ++ beyond) :=
    List.rel_append projectedBelow projectedAbove
  rw [split] at joined
  exact List.right_unique_forall₂' (isProjection_unique _) joined projected

theorem sorts_of_ofTable {selection : Selection} {table : Table} {column : Text}
    (planned : ofTable selection table = .ok plan)
    (resolved : resolve selection table column = .ok index)
    (unfiltered : selection.condition = none) (ungrouped : selection.groupBy = [])
    (sorted : selection.orderBy = [⟨column, .ascending⟩]) :
    plan.table = table ∧ plan.filter = none ∧ plan.groupBy = [] ∧
      plan.orderBy = [(index, .ascending)] ∧ plan.limit = selection.limit ∧
      plan.offset = selection.offset := by
  obtain ⟨columns, -, planned⟩ := bind_ok_iff.mp planned
  obtain ⟨filter, filtered, planned⟩ := bind_ok_iff.mp planned
  obtain ⟨groupBy, grouped, planned⟩ := bind_ok_iff.mp planned
  obtain ⟨orderBy, ordered, ⟨⟩⟩ := bind_ok_iff.mp planned
  rw [unfiltered] at filtered
  rw [ungrouped] at grouped
  rw [sorted, mapM_ok_iff] at ordered
  cases filtered
  cases grouped
  cases ordered with
  | cons item others =>
    rw [resolved] at item
    cases item
    cases others
    exact ⟨rfl, rfl, rfl, rfl, rfl, rfl⟩

end Plan

/-- A selection that sorts by a column is answered with the rows below a literal, sorted, and then
those above it, sorted, if all cells in the column are numbers and the literal is one too, or all
are texts and the literal too. -/
theorem Catalog.run_splits {catalog : Catalog} {selection : Selection} {name column : Text}
    {table : Table} {plan : Plan} {index : Nat} {literal : Value}
    (found : catalog.table? name selection.table = some table)
    (planned : Plan.ofTable selection table = .ok plan)
    (resolved : Plan.resolve selection table column = .ok index)
    (unfiltered : selection.condition = none) (ungrouped : selection.groupBy = [])
    (sorted : selection.orderBy = [⟨column, .ascending⟩])
    (unlimited : selection.limit = none) (unskipped : selection.offset = none)
    (kinds : (literal.IsNumber ∧
        ∀ cells ∈ table.rows, ∀ cell, cells[index]? = some cell → cell.IsNumber) ∨
      (literal.IsText ∧
        ∀ cells ∈ table.rows, ∀ cell, cells[index]? = some cell → cell.IsText)) :
    ∃ whole, catalog.run selection (some name) = .ok whole ∧
      ∀ below above, Operator.Parts below above → ∃ under beyond,
        catalog.run (selection.filtered ⟨column, below, literal⟩) (some name) = .ok under ∧
        catalog.run (selection.filtered ⟨column, above, literal⟩) (some name) = .ok beyond ∧
        under.columns = whole.columns ∧ beyond.columns = whole.columns ∧
        under.rows ++ beyond.rows = whole.rows ∧
        under.rowCount + beyond.rowCount = whole.rowCount := by
  have ready : plan.IsResolved := Plan.isResolved_of_ofTable planned (by simp [unfiltered])
  obtain ⟨rfl, noFilter, noGroups, byColumn, noLimit, noOffset⟩ :=
    Plan.sorts_of_ofTable planned resolved unfiltered ungrouped sorted
  have kindred : ∀ cells ∈ plan.table.rows, ∀ cell, cells[index]? = some cell →
      cell.Kindred literal := by
    rcases kinds with ⟨number, numbers⟩ | ⟨text, texts⟩
    · exact fun cells member cell there => .inl ⟨numbers cells member cell there, number⟩
    · exact fun cells member cell there => .inr ⟨texts cells member cell there, text⟩
  have inside : index < plan.table.columns.length :=
    ready.orderBy (index, .ascending) (by simp [byColumn])
  obtain ⟨rows, run⟩ := Plan.exists_run ready
    (Plan.isWritable_of_kindred noFilter noGroups byColumn
      (Plan.hasKindred_of_rows inside kindred)).1
  obtain ⟨database, foundDatabase, foundTable⟩ := Option.bind_eq_some_iff.mp found
  have ofDatabase : Plan.ofSelection selection database = .ok plan := by
    unfold Plan.ofSelection
    rw [foundTable]
    exact planned
  refine ⟨⟨plan.columnNames, rows.map (·.cells), rows.length⟩,
    run_ok_iff.mpr ⟨database, plan, rows, foundDatabase, ofDatabase, run, rfl⟩,
    fun below above parts => ?_⟩
  obtain ⟨under, beyond, runBelow, runAbove, rfl⟩ :=
    Plan.exists_runs_append ready noFilter noGroups byColumn (noLimit.trans unlimited)
      (noOffset.trans unskipped) kindred run parts
  exact ⟨_, _, run_filtered found planned resolved runBelow,
    run_filtered found planned resolved runAbove, rfl, rfl, List.map_append.symm,
    List.length_append.symm⟩

def Table.weights : Table where
  name := "weights"
  columns := ["thing", "weight"]
  rows := [[.text "box", .integer 7], [.text "jar", .integer 5], [.text "cup", .integer 2],
    [.text "pan", .real .five], [.text "lid", .integer 1]]
  columns_distinct := by decide
  rows_aligned := by decide

def Selection.lightestFirst : Selection where
  columns := ["thing"]
  table := "weights"
  tableAlias := none
  condition := none
  groupBy := []
  orderBy := [⟨"weight", .ascending⟩]
  limit := none
  offset := none

theorem Catalog.run_splits_weights :
    ∃ whole under beyond,
      Catalog.run ⟨[⟨"kitchen", [.weights]⟩]⟩ .lightestFirst (some "kitchen") = .ok whole ∧
      Catalog.run ⟨[⟨"kitchen", [.weights]⟩]⟩
        (Selection.lightestFirst.filtered ⟨"weight", .lt, .integer 5⟩) (some "kitchen") =
          .ok under ∧
      Catalog.run ⟨[⟨"kitchen", [.weights]⟩]⟩
        (Selection.lightestFirst.filtered ⟨"weight", .ge, .integer 5⟩) (some "kitchen") =
          .ok beyond ∧
      under.rows ++ beyond.rows = whole.rows := by
  have planned : Plan.ofTable .lightestFirst .weights =
      .ok ⟨.weights, [0], none, [], [(1, .ascending)], none, none⟩ := rfl
  have numbers : ∀ cells ∈ Table.weights.rows, ∀ cell, cells[1]? = some cell → cell.IsNumber := by
    simp [Table.weights, Value.IsNumber, Binary64.five]
  obtain ⟨whole, run, splits⟩ := @run_splits ⟨[⟨"kitchen", [.weights]⟩]⟩ .lightestFirst "kitchen"
    "weight" .weights _ 1 (.integer 5) rfl planned rfl rfl rfl rfl rfl rfl
    (.inl ⟨trivial, numbers⟩)
  obtain ⟨under, beyond, runBelow, runAbove, -, -, rows, -⟩ := splits .lt .ge .lower
  exact ⟨whole, under, beyond, run, runBelow, runAbove, rows⟩

end SqlConsole
