import SqlConsole.Catalog.Bundled
import SqlConsole.Proofs.Suggestion.Positions
import SqlConsole.Proofs.Text.Case
import SqlConsole.Suggestion.Candidates

/-!
# What is offered in a query

Behind the words that introduce a table the tables are offered, and elsewhere the columns of the
tables that the query refers to, in whatever clause (`complete_query`). The clauses tell apart only
what is offered before the query refers to any table.
-/

namespace SqlConsole.Suggestion

/-! ### Positions that exclude each other -/

variable {l m : Language CodePoint} {p : CodePoint → Bool} {words others : List Text} {cs : Text}

/-- Patterns that exclude each other do so with a run of a kind behind them too, if no text of them
ends in the kind. -/
theorem apart_mul_many (first : StopsBefore p l) (second : StopsBefore p m)
    (apart : ∀ t ∈ l, t ∉ m) : ∀ t ∈ l * many p, t ∉ m * many p := by
  intro t here there
  exact apart _ ((mem_mul_many_iff first).mp here) ((mem_mul_many_iff second).mp there)

theorem behind_subset (words : List Text) :
    ∀ t ∈ behind words, t ∈ front * oneOf words * many CodePoint.isBlank := by
  rintro _ ⟨a, first, b, blanks, rfl⟩
  exact ⟨a, first, b, blanks.2, rfl⟩

theorem behind_apart (runs : ∀ w ∈ words, IsRun w) (otherRuns : ∀ w ∈ others, IsRun w)
    (distinct : ∀ w ∈ words, w ∉ others) : ∀ t ∈ behind words, t ∉ behind others := by
  intro t here there
  have blank := isBlank_apart_isWord.symm
  refine apart_mul_many (blank.mul_oneOf runs) (blank.mul_oneOf otherRuns) ?_ t
    (behind_subset words t here) (behind_subset others t there)
  intro t first second
  obtain ⟨member, -⟩ := (mem_mul_oneOf_iff stopsBefore_front fun w run => (runs w run).2).mp first
  exact distinct _ member
    ((mem_mul_oneOf_iff stopsBefore_front fun w run => (otherRuns w run).2).mp second).1

theorem behind_apart_behindOperator (runs : ∀ w ∈ words, IsRun w) :
    ∀ t ∈ behind words, t ∉ behindOperator := by
  intro t here there
  obtain ⟨operatorBlank, operatorColumn⟩ := isOperatorChar_apart
  -- Without the blanks at its end the text would end in a letter and in an operator.
  refine apart_mul_many (isBlank_apart_isWord.symm.mul_oneOf runs)
    (operatorBlank.mul_oneOf joinOperators_mem_run) ?_ t (behind_subset words t here) there
  rintro _ ⟨a, -, w, member, rfl⟩ operator
  obtain ⟨filled, all⟩ := runs w member
  have last : (a ++ w).getLast? = some (w.getLast filled) := by
    rw [List.getLast?_append, List.getLast?_eq_some_getLast filled, Option.some_or]
  have letter : isColumnChar (w.getLast filled) = true := by
    simp [isColumnChar, all _ (List.getLast_mem filled)]
  rw [operatorColumn.mul_oneOf joinOperators_mem_run _ operator _ last] at letter
  cases letter

theorem tablePosition_subset :
    ∀ t ∈ tablePosition, t ∈ behind ["from", "join"] * many isColumnChar := by
  rintro _ ⟨a, first, b, word, rfl⟩
  exact ⟨a, first, b, fun c member => by simp [isColumnChar, word c member], rfl⟩

theorem tablePosition_apart : ∀ t ∈ tablePosition, t ∉ conditionPosition ∧ t ∉ joinPosition := by
  intro t table
  have here := tablePosition_subset t table
  have stops := isBlank_apart_isColumnChar.behind
  constructor
  · refine apart_mul_many (stops _) (stops _) ?_ t here
    exact behind_apart (by decide +kernel) (by decide +kernel) (by decide)
  · refine apart_mul_many (stops _) stopsBefore_behindOperator ?_ t here
    exact behind_apart_behindOperator (by decide +kernel)

/-! ### Queries -/

variable {catalog : Catalog} {database : Database} {name text : Text}

theorem unended_contextOf (unended : text.getLast? ≠ some (.char '\n')) :
    (contextOf text).getLast? ≠ some (.char '\n') := by
  refine unended_of_suffix ?_ (List.dropWhile_suffix CodePoint.isBlank)
  exact fun last => unended (Text.getLast?_of_lowerFrom (by decide) last)

def columnPosition : Language CodePoint :=
  conditionPosition + joinPosition + listPosition + havingPosition

def matching (text : Text) (names : List Text) : List Text :=
  (names.filter fun name => (currentWord text).lower.isPrefixOf name.lower).eraseDups

theorem complete_eq_matching (catalog : Catalog) (text : Text) (name : Option Text) :
    complete catalog text name = matching text (candidates catalog (contextOf text) name) := rfl

theorem candidates_query (found : catalog.database? name = some database)
    (query : startsWith "select " cs = true) :
    candidates catalog cs (some name) =
      if inCondition cs || inJoin cs then referencedColumns (tableReferences cs) database
      else if inTable cs then database.tableNames
      else if inList cs || inHaving cs then referencedColumns (tableReferences cs) database
      else if tableReferences cs = [] then allColumns database
      else referencedColumns (tableReferences cs) database := by
  have command : inCommand cs = false := by
    obtain ⟨rest, rfl⟩ := List.isPrefixOf_iff_prefix.mp query
    rfl
  have choice : inDatabase cs = false := by
    obtain ⟨rest, rfl⟩ := List.isPrefixOf_iff_prefix.mp query
    rfl
  have description : startsWith "\\d " cs = false := by
    obtain ⟨rest, rfl⟩ := List.isPrefixOf_iff_prefix.mp query
    rfl
  simp only [candidates, command, choice, Option.bind_some, found, databaseCandidates, description,
    query, Bool.false_eq_true, if_false, if_true]

theorem candidates_tablePosition (found : catalog.database? name = some database)
    (unended : cs.getLast? ≠ some (.char '\n')) (query : startsWith "select " cs = true)
    (position : cs ∈ tablePosition) : candidates catalog cs (some name) = database.tableNames := by
  obtain ⟨condition, join⟩ := tablePosition_apart cs position
  rw [← inCondition_iff unended, Bool.not_eq_true] at condition
  rw [← inJoin_iff unended, Bool.not_eq_true] at join
  rw [← inTable_iff unended] at position
  rw [candidates_query found query, condition, join, position]
  rfl

theorem candidates_referenced (found : catalog.database? name = some database)
    (unended : cs.getLast? ≠ some (.char '\n')) (query : startsWith "select " cs = true)
    (elsewhere : cs ∉ tablePosition) (refers : tableReferences cs ≠ []) :
    candidates catalog cs (some name) = referencedColumns (tableReferences cs) database := by
  rw [← inTable_iff unended] at elsewhere
  rw [candidates_query found query, if_neg elsewhere, if_neg refers]
  simp only [ite_self]

theorem mem_columnPosition_iff (unended : cs.getLast? ≠ some (.char '\n')) :
    cs ∈ columnPosition ↔
      (inCondition cs || inJoin cs) = true ∨ (inList cs || inHaving cs) = true := by
  simp only [columnPosition, Language.mem_add, Bool.or_eq_true, inCondition_iff unended,
    inJoin_iff unended, inList_iff unended, inHaving_iff unended, or_assoc]

theorem candidates_unreferenced (found : catalog.database? name = some database)
    (unended : cs.getLast? ≠ some (.char '\n')) (query : startsWith "select " cs = true)
    (elsewhere : cs ∉ tablePosition) (unreferenced : tableReferences cs = []) :
    (cs ∈ columnPosition → candidates catalog cs (some name) = []) ∧
      (cs ∉ columnPosition → candidates catalog cs (some name) = allColumns database) := by
  rw [← inTable_iff unended] at elsewhere
  rw [candidates_query found query, if_neg elsewhere, unreferenced, if_pos rfl,
    mem_columnPosition_iff unended]
  have none : referencedColumns [] database = [] := rfl
  constructor
  · rintro (condition | list)
    · rw [if_pos condition, none]
    · rw [if_pos list, none, ite_self]
  · intro outside
    rw [not_or] at outside
    rw [if_neg outside.1, if_neg outside.2]

/-- In a query the tables are offered where one is introduced, else the columns of the tables it
refers to, and if it refers to none, nothing in a clause and all columns before one. So behind its
references the clause does not matter. -/
theorem complete_query (found : catalog.database? name = some database)
    (unended : text.getLast? ≠ some (.char '\n'))
    (query : startsWith "select " (contextOf text) = true) :
    (contextOf text ∈ tablePosition →
      complete catalog text (some name) = matching text database.tableNames) ∧
    (contextOf text ∉ tablePosition →
      (tableReferences (contextOf text) ≠ [] →
        complete catalog text (some name) =
          matching text (referencedColumns (tableReferences (contextOf text)) database)) ∧
      (tableReferences (contextOf text) = [] →
        (contextOf text ∈ columnPosition → complete catalog text (some name) = []) ∧
        (contextOf text ∉ columnPosition →
          complete catalog text (some name) = matching text (allColumns database))) ∧
      ∀ other : Text, other.getLast? ≠ some (.char '\n') →
        startsWith "select " (contextOf other) = true → contextOf other ∉ tablePosition →
        tableReferences (contextOf text) ≠ [] →
        tableReferences (contextOf other) = tableReferences (contextOf text) →
        (currentWord other).lower = (currentWord text).lower →
        complete catalog other (some name) = complete catalog text (some name)) := by
  have ended := unended_contextOf unended
  simp only [complete_eq_matching]
  refine ⟨fun position => ?_, fun elsewhere => ⟨fun refers => ?_, fun unreferenced => ?_, ?_⟩⟩
  · rw [candidates_tablePosition found ended query position]
  · rw [candidates_referenced found ended query elsewhere refers]
  · obtain ⟨clause, list⟩ := candidates_unreferenced found ended query elsewhere unreferenced
    constructor
    · intro position
      rw [clause position]
      rfl
    · intro outside
      rw [list outside]
  · intro other otherUnended otherQuery otherElsewhere refers same word
    rw [candidates_referenced found ended query elsewhere refers,
      candidates_referenced found (unended_contextOf otherUnended) otherQuery otherElsewhere
        (by rwa [same]), same, matching, matching, word]

/-- A column of the table is offered in a condition, and as a column to group by. -/
theorem complete_query_clauses :
    complete .bundled "SELECT * FROM engineers e WHERE E.NA" (some "career_db") =
        [Text.ofString "e.name"] ∧
      complete .bundled "SELECT * FROM engineers e GROUP BY id, E.NA" (some "career_db") =
        [Text.ofString "e.name"] := by
  have outside : ∀ t : Text, (contextOf t).getLast? ≠ some (.char '\n') →
      inTable (contextOf t) = false → contextOf t ∉ tablePosition := by
    intro t unended other position
    rw [(inTable_iff unended).mpr position] at other
    cases other
  obtain ⟨-, columns⟩ := @complete_query .bundled
    ⟨"career_db", [Catalog.engineers, Catalog.skills, Catalog.projects]⟩ "career_db"
    "SELECT * FROM engineers e WHERE E.NA" rfl (by decide +kernel) (by decide +kernel)
  obtain ⟨referenced, -, independent⟩ := columns (outside _ (by decide +kernel) (by decide +kernel))
  have refers : tableReferences (contextOf "SELECT * FROM engineers e WHERE E.NA") =
      [⟨"engineers", some "e"⟩] := by decide +kernel
  rw [refers] at referenced independent
  have condition := referenced (by decide)
  have group := independent "SELECT * FROM engineers e GROUP BY id, E.NA" (by decide +kernel)
    (by decide +kernel) (outside _ (by decide +kernel) (by decide +kernel)) (by decide)
    (by decide +kernel) (by decide +kernel)
  rw [group, condition]
  decide +kernel

end SqlConsole.Suggestion
