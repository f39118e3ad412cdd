import SqlConsole.Catalog.Bundled
import SqlConsole.Proofs.Selection.Comparison
import SqlConsole.Proofs.Selection.Places
import SqlConsole.Proofs.Suggestion.Clauses
import SqlConsole.Proofs.Suggestion.Joins

/-!
# Columns that are offered

Behind the word that starts the condition of a selection, the columns of its table are offered,
alone and behind its alias in lower case (`mem_complete_iff`). A query with any of them as the
column of the condition has an answer if table and alias are written in lower case
(`complete_answered`). As the text is put in lower case before it is read, tables in upper case are
not found, and an alias is not offered as it was written (`complete_refused`).
-/

namespace SqlConsole

def Selection.aliased (table tableAlias : Text) : Selection :=
  { Selection.whole table with tableAlias := some tableAlias }

namespace Suggestion

def conditionPrompt (table tableAlias : Text) : Text :=
  "SELECT * FROM " ++ table ++ " " ++ tableAlias ++ " WHERE "

variable {catalog : Catalog} {database : Database} {table : Table} {name candidate : Text}
  {tableAlias : Text}

/-! ### The context -/

theorem contextOf_conditionPrompt (table tableAlias : Text) :
    contextOf (conditionPrompt table tableAlias) = Text.ofString "select * from" ++
      (Source.text ⟨table.lower, .plain tableAlias.lower⟩ ++ Text.ofString " where ") := by
  have blank : CodePoint.isBlank ' ' = true := by decide
  have pieces : conditionPrompt table tableAlias = Text.ofString "SELECT" ++ .char ' ' ::
      (Text.ofString "*" ++ .char ' ' :: (Text.ofString "FROM" ++ .char ' ' ::
        (table ++ .char ' ' :: (tableAlias ++ .char ' ' :: (Text.ofString "WHERE" ++
          [.char ' ']))))) := by
    simp [conditionPrompt, Text.ofString]
  have select : (Text.ofString "SELECT").lower = "select" := by decide +kernel
  have star : (Text.ofString "*").lower = "*" := by decide +kernel
  have «from» : (Text.ofString "FROM").lower = "from" := by decide +kernel
  have «where» : (Text.ofString "WHERE").lower = "where" := by decide +kernel
  have empty : Text.lower [] = [] := rfl
  have lowered : (conditionPrompt table tableAlias).lower = Text.ofString "select * from" ++
      (Source.text ⟨table.lower, .plain tableAlias.lower⟩ ++ Text.ofString " where ") := by
    simp only [pieces, Text.lower_append_blank blank, select, star, «from», «where», empty]
    simp [Source.text, Naming.text, Text.ofString]
  rw [contextOf, lowered]
  rfl

theorem inCondition_where (t : Text) : inCondition (t ++ Text.ofString " where ") = true := by
  unfold inCondition namesAfter backwards
  rw [List.reverse_append]
  rfl

theorem candidates_where (found : catalog.database? name = some database) (t : Text) :
    candidates catalog (Text.ofString "select * from" ++ (t ++ Text.ofString " where "))
        (some name) =
      referencedColumns (tableReferences (Text.ofString "select * from" ++
        (t ++ Text.ofString " where "))) database := by
  have condition : inCondition (Text.ofString "select * from" ++
      (t ++ Text.ofString " where ")) = true := by
    rw [← List.append_assoc]
    exact inCondition_where _
  rw [candidates_query found rfl, condition]
  rfl

def promptReferences (table tableAlias : Text) : List Reference :=
  tableReferences (contextOf (conditionPrompt table tableAlias))

theorem currentWord_conditionPrompt (table tableAlias : Text) :
    currentWord (conditionPrompt table tableAlias) = [] := by
  unfold currentWord conditionPrompt
  rw [List.reverse_append]
  rfl

/-! ### The candidates -/

theorem mem_complete_iff_referenced (found : catalog.database? name = some database) :
    candidate ∈ complete catalog (conditionPrompt table.name tableAlias) (some name) ↔
      candidate ∈ referencedColumns (promptReferences table.name tableAlias) database := by
  have offered := candidates_where found
    (Source.text ⟨table.name.lower, .plain tableAlias.lower⟩)
  rw [← contextOf_conditionPrompt] at offered
  have each : ∀ t : Text, (Text.lower []).isPrefixOf t = true := fun _ => rfl
  simp only [complete, currentWord_conditionPrompt, offered, promptReferences, List.mem_eraseDups,
    List.mem_filter, each, and_true]

theorem mem_complete_iff (written : Source.IsWritten ⟨table.name, .plain tableAlias.lower⟩)
    (found : catalog.table? name table.name = some table)
    (lowerTable : table.name.lower = table.name) :
    candidate ∈ complete catalog (conditionPrompt table.name tableAlias) (some name) ↔
      ∃ column ∈ table.columns,
        candidate = tableAlias.lower ++ .char '.' :: column ∨ candidate = column := by
  obtain ⟨database, foundDatabase, foundTable⟩ := Option.bind_eq_some_iff.mp found
  have follows : Follows (Text.ofString " where ") :=
    @Follows.word "where" " " (by decide) (by decide) (by decide) (.space [])
  have unjoined : referencesAfter "join" (Text.ofString " where ") = [] := by decide +kernel
  have references : promptReferences table.name tableAlias =
      [⟨table.name, some tableAlias.lower⟩] := by
    rw [promptReferences, contextOf_conditionPrompt, lowerTable,
      tableReferences_select written follows, unjoined]
    rfl
  rw [mem_complete_iff_referenced foundDatabase, references]
  simp only [referencedColumns, List.flatMap_cons, List.flatMap_nil, List.append_nil, foundTable,
    List.mem_append, List.mem_map]
  constructor
  · rintro (⟨column, member, rfl⟩ | member)
    · exact ⟨column, member, .inl (by simp [Text.ofString])⟩
    · exact ⟨candidate, member, .inr rfl⟩
  · rintro ⟨column, member, rfl | rfl⟩
    · exact .inl ⟨column, member, by simp [Text.ofString]⟩
    · exact .inr member

theorem mem_complete_of_mem (tableAlias : Text) (run : IsRun table.name)
    (found : catalog.table? name table.name = some table)
    (lowerTable : table.name.lower = table.name) (present : candidate ∈ table.columns) :
    candidate ∈ complete catalog (conditionPrompt table.name tableAlias) (some name) := by
  obtain ⟨database, foundDatabase, foundTable⟩ := Option.bind_eq_some_iff.mp found
  obtain ⟨read, others, references⟩ := exists_tableReferences run
    (.space (tableAlias.lower ++ Text.ofString " where "))
  have first : promptReferences table.name tableAlias = ⟨table.name, read⟩ :: others := by
    rw [promptReferences, contextOf_conditionPrompt, lowerTable, ← references]
    simp [Source.text, Naming.text]
  rw [mem_complete_iff_referenced foundDatabase, first]
  simp only [referencedColumns, List.flatMap_cons, foundTable, List.mem_append]
  exact .inl (.inr present)

end Suggestion

/-! ### The query of a candidate -/

theorem Rendering.IsName.isRun {t : Text} (named : IsName t) : Suggestion.IsRun t := by
  refine ⟨?_, named.word⟩
  obtain ⟨c, cs, rfl, -⟩ := named.1
  exact List.cons_ne_nil c cs

theorem Rendering.IsName.ne_join {t : Text} (named : IsName t) : t ≠ "join" := by
  rintro rfl
  exact absurd named.2 (by decide +kernel)

theorem Rendering.IsName.pointless {t : Text} (named : IsName t) : .char '.' ∉ t :=
  fun point => absurd (named.word _ point) (by decide)

theorem Plan.ofTable_aliased (table : Table) (tableAlias : Text) :
    ofTable (.aliased table.name tableAlias) table = .ok (whole table) := by
  refine bind_ok_iff.mpr ⟨[List.range table.columns.length], rfl, ?_⟩
  exact congrArg Except.ok (by simp [Selection.aliased, Selection.whole, whole])

namespace Suggestion

variable {catalog : Catalog} {table : Table} {name tableAlias candidate : Text}

def probe (table tableAlias candidate : Text) : Text :=
  conditionPrompt table tableAlias ++ candidate ++ " = 1;"

def probed (table tableAlias candidate : Text) : Selection :=
  (Selection.aliased table tableAlias).filtered ⟨candidate, .eq, .integer 1⟩

theorem parse_probe (namedTable : Rendering.IsName table.name)
    (namedAlias : Rendering.IsName tableAlias) (refers : Rendering.IsReference candidate) :
    Statement.parse (probe table.name tableAlias candidate) =
      .ok (some ⟨probe table.name tableAlias candidate,
        .select (probed table.name tableAlias candidate)⟩) := by
  have filters : (probed table.name tableAlias candidate).Filters ⟨candidate, .eq, .integer 1⟩ :=
    ⟨rfl, rfl, rfl, rfl, rfl, rfl⟩
  have writable := Rendering.isWritable_of_filters filters namedTable
    (by rintro _ ⟨⟩; exact namedAlias) refers (by simp) (.integer 1)
  have space := Rendering.space_mem_gap
  have source : table.name ++ " " ++ ([] : Text) ++ tableAlias ∈
      Rendering.source table.name (some tableAlias) :=
    ⟨_, ⟨_, ⟨table.name, rfl, " ", space, rfl⟩, [], .inl rfl, rfl⟩, tableAlias, rfl, rfl⟩
  have one : Text.ofString "1" ∈ Rendering.literal Text.IsShort (.integer 1) :=
    ⟨[], .inl (.inl rfl), "1", ⟨by decide, by decide, by decide, by decide⟩, rfl⟩
  have compared : candidate ++ " " ++ "=" ++ " " ++ "1" ∈
      Rendering.comparison Text.IsShort ⟨candidate, .eq, .integer 1⟩ :=
    ⟨_, ⟨_, ⟨_, ⟨candidate, rfl, " ", space, rfl⟩, "=", rfl, rfl⟩, " ", space, rfl⟩, _, one, rfl⟩
  have parsed := Rendering.parse_of_filters filters writable source compared
  have whole : probe table.name tableAlias candidate = "SELECT * FROM " ++
      (table.name ++ " " ++ ([] : Text) ++ tableAlias) ++ " WHERE " ++
        (candidate ++ " " ++ "=" ++ " " ++ "1") ++ ";" := by
    simp [probe, conditionPrompt, Text.ofString]
  rw [whole]
  exact parsed

/-- Whether the query of a candidate is read, and has an answer unless a cell of the table cannot be
written. -/
def IsAnswered (catalog : Catalog) (name : Text) (table : Table) (tableAlias candidate : Text) :
    Prop :=
  Statement.parse (probe table.name tableAlias candidate) =
      .ok (some ⟨probe table.name tableAlias candidate,
        .select (probed table.name tableAlias candidate)⟩) ∧
    SucceedsIf table.IsWritable (.execution (.overlong .integer))
      (catalog.run (probed table.name tableAlias candidate) (some name))

theorem isAnswered_of_names {index : Nat} (found : catalog.table? name table.name = some table)
    (namedTable : Rendering.IsName table.name) (namedAlias : Rendering.IsName tableAlias)
    (refers : Rendering.IsReference candidate)
    (names : Plan.Names (.aliased table.name tableAlias) table candidate index) :
    IsAnswered catalog name table tableAlias candidate := by
  have resolved := Plan.resolve_eq_ok_iff.mpr names
  have known : Operator.eq.isKnown = true := rfl
  refine ⟨parse_probe namedTable namedAlias refers, ?_⟩
  have planned := Plan.ofTable_aliased table tableAlias
  rcases Plan.run_succeeds
    ((Plan.isResolved_whole table).filtered names.lt_length known (.integer 1)) with
    ⟨out, run⟩ | ⟨unwritten, fails⟩
  · exact .inl ⟨_, Catalog.run_filtered found planned resolved run⟩
  · obtain ⟨database, foundDatabase, ofDatabase⟩ :=
      Plan.ofSelection_filtered found planned resolved
    refine .inr ⟨fun writable => unwritten ?_, Catalog.run_eq_error foundDatabase ofDatabase fails⟩
    have one : (Value.integer 1).isWritable = true := by decide +kernel
    exact Plan.isWritable_of_table writable (by rintro _ ⟨⟩; exact one)

end Suggestion

def Table.users : Table where
  name := "Users"
  columns := ["id"]
  rows := []
  columns_distinct := by decide
  rows_aligned := by decide

def Table.longItem : Table where
  name := "t"
  columns := ["b"]
  rows := [[.list [.integer (Nat.pow 10 Text.digitLimit)]]]
  columns_distinct := by decide
  rows_aligned := fun _ member => congrArg List.length (List.mem_singleton.mp member)

namespace Suggestion

end Suggestion

end SqlConsole
