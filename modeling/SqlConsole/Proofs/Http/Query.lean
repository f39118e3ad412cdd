import SqlConsole.Catalog.Bundled
import SqlConsole.Http.Server
import SqlConsole.Proofs.Selection.Answers
import SqlConsole.Proofs.Session.Lines

/-!
# Queries over HTTP

A query over HTTP and the same query in the console are answered alike (`Http.respond_agrees`). The
rows of an answer become objects on the way, and no cell is lost, as cells of columns of one name
are equal.
-/

namespace SqlConsole

/-! ### What the console answers -/

def Statement.Selects (line : Text) (selection : Selection) : Prop :=
  ∃ statement, parse line = .ok (some statement) ∧ statement.request = .select selection

theorem Session.submit_selection {catalog : Catalog} {s : Session} {line : Text}
    {selection : Selection} (idle : s.pending = none) (selects : Statement.Selects line selection) :
    (s.submit catalog line).1 = .ok (some (s.select catalog selection)) := by
  obtain ⟨statement, read, request⟩ := selects
  rw [submit_idle idle (Statement.plain_of_parse read request), submitCommand_of_parse read]
  simp only [execute, answer, request]
  rfl

/-! ### Rows as objects -/

theorem Table.NamesCells.exists_rowObject {table : Table} {names : List Text} {row : Row}
    (named : table.NamesCells names row) :
    ∃ entries, Http.rowObject names row.cells = .mapping entries ∧
      names.mapM (Keyed.get? entries) = some row.cells := by
  obtain ⟨source, -, cells⟩ := named
  -- The cell of a name, whichever of the columns of this name is looked at.
  let cellOf : Text → Option Value := fun name => (table.columnIndex? name).bind (source[·]?)
  have given : ∀ e ∈ names.zip row.cells, cellOf e.1 = some e.2 := by
    intro e member
    obtain ⟨index, place, cell⟩ := List.forall₂_zip cells member
    exact Option.bind_eq_some_iff.mpr ⟨index, place, cell⟩
  refine ⟨_, rfl, mapM_some_iff.mpr ?_⟩
  refine List.forall₂_iff_zip.mpr ⟨cells.length_eq, fun {name cell} member => ?_⟩
  rw [Keyed.get?_ofList cellOf given (List.mem_map_of_mem member)]
  exact given _ member

theorem Table.exists_rowObjects {table : Table} {names : List Text} {rows : List Row}
    (named : ∀ row ∈ rows, table.NamesCells names row) :
    ∃ objects : List (List (Text × Value)),
      (rows.map (·.cells)).map (Http.rowObject names) = objects.map .mapping ∧
        (objects.mapM fun entries => names.mapM (Keyed.get? entries)) =
          some (rows.map (·.cells)) := by
  induction rows with
  | nil => exact ⟨[], rfl, rfl⟩
  | cons row rows ih =>
    obtain ⟨first, others⟩ := List.forall_mem_cons.mp named
    obtain ⟨objects, same, read⟩ := ih others
    obtain ⟨entries, object, cells⟩ := first.exists_rowObject
    refine ⟨entries :: objects, ?_, ?_⟩
    · simp only [List.map_cons, object, same]
    · exact mapM_some_iff.mpr (.cons cells (mapM_some_iff.mp read))

theorem Catalog.exists_rowObjects {catalog : Catalog} {selection : Selection} {name line : Text}
    {answer : ResultSet} (selects : Statement.Selects line selection)
    (run : catalog.run selection (some name) = .ok answer) :
    ∃ objects : List (List (Text × Value)),
      answer.rows.map (Http.rowObject answer.columns) = objects.map .mapping ∧
        (objects.mapM fun entries => answer.columns.mapM (Keyed.get? entries)) =
          some answer.rows := by
  obtain ⟨statement, read, query⟩ := selects
  obtain ⟨database, plan, out, -, planned, rows, rfl⟩ := run_ok_iff.mp run
  have resolved := Plan.isResolved_of_parse read query planned
  exact Table.exists_rowObjects (Plan.namesCells_of_run resolved.columns rows)

namespace Http

open Statement (Selects)

variable {depth : Nat} {catalog : Catalog} {name line : Text} {selection : Selection}
  {answer : ResultSet}

/-! ### Four ways to end -/

/-- Whether a text of input is no statement, or one that is refused. -/
inductive IsInvalid (line : Text) : Prop
  | silent (read : Statement.parse line = .ok none)
  | refused {statement : Statement} {message token : Text}
      (read : Statement.parse line = .ok (some statement))
      (request : statement.request = .refused message token)

/-- Whether a text of input is a statement that is neither a selection nor refused. -/
def IsUnsupported (line : Text) : Prop :=
  ∃ statement, Statement.parse line = .ok (some statement) ∧
    (∀ selection, statement.request ≠ .select selection) ∧
    ∀ message token, statement.request ≠ .refused message token

theorem selects_or (line : Text) :
    (∃ selection, Selects line selection) ∨ IsUnsupported line ∨ IsInvalid line ∨
      ∃ what, Statement.parse line = .error what := by
  match read : Statement.parse line with
  | .ok none => exact .inr (.inr (.inl (.silent read)))
  | .ok (some statement) =>
    by_cases selects : ∃ selection, statement.request = .select selection
    · obtain ⟨selection, query⟩ := selects
      exact .inl ⟨selection, statement, read, query⟩
    · by_cases refused : ∃ message token, statement.request = .refused message token
      · obtain ⟨message, token, refusal⟩ := refused
        exact .inr (.inr (.inl (.refused read refusal)))
      · refine .inr (.inl ⟨statement, read, ?_, ?_⟩)
        · exact fun selection query => selects ⟨selection, query⟩
        · exact fun message token refusal => refused ⟨message, token, refusal⟩
  | .error what => exact .inr (.inr (.inr ⟨what, rfl⟩))

theorem runQuery_answered (selects : Selects line selection)
    (run : catalog.run selection (some name) = .ok answer) :
    runQuery catalog name line =
      .ok [("result", .list (answer.rows.map (rowObject answer.columns))),
        ("columns", .list (answer.columns.map .text))] := by
  obtain ⟨statement, read, query⟩ := selects
  simp only [runQuery, read, Option.map_some, query, run]

theorem runQuery_failed {e : QueryError} (selects : Selects line selection)
    (run : catalog.run selection (some name) = .error e) :
    runQuery catalog name line = .error 500 "Query execution failed" := by
  obtain ⟨statement, read, query⟩ := selects
  simp only [runQuery, read, Option.map_some, query, run]

theorem runQuery_unsupported (unsupported : IsUnsupported line) :
    runQuery catalog name line = .error 400 "Unsupported query type" := by
  obtain ⟨statement, read, unselected, unrefused⟩ := unsupported
  cases request : statement.request with
  | select selection => exact absurd request (unselected selection)
  | refused message token => exact absurd request (unrefused message token)
  | _ => simp only [runQuery, read, Option.map_some, request]

theorem runQuery_invalid (invalid : IsInvalid line) :
    runQuery catalog name line = .error 400 "Invalid query" := by
  cases invalid with
  | silent read => simp only [runQuery, read, Option.map_none]
  | refused read request => simp only [runQuery, read, Option.map_some, request]

theorem runQuery_unread {what : Overlong} (unread : Statement.parse line = .error what) :
    runQuery catalog name line = .internalError := by
  simp only [runQuery, unread]

theorem cases_of_runQuery (catalog : Catalog) (name line : Text) :
    ((runQuery catalog name line).status = 200 →
      ∃ selection answer, Selects line selection ∧
        catalog.run selection (some name) = .ok answer) ∧
    (runQuery catalog name line = .error 500 "Query execution failed" →
      ∃ selection e, Selects line selection ∧ catalog.run selection (some name) = .error e) ∧
    (runQuery catalog name line = .error 400 "Unsupported query type" → IsUnsupported line) ∧
    (runQuery catalog name line = .error 400 "Invalid query" → IsInvalid line) ∧
    (runQuery catalog name line = .internalError →
      ∃ what, Statement.parse line = .error what) := by
  have apart : Text.ofString "Unsupported query type" ≠ "Invalid query" := by decide
  have keys : Text.ofString "error" ≠ "message" := by decide
  rcases selects_or line with ⟨selection, selects⟩ | unsupported | invalid | unread
  · cases run : catalog.run selection (some name) with
    | ok answer =>
      rw [runQuery_answered selects run]
      refine ⟨fun _ => ⟨selection, answer, selects, run⟩, ?_, ?_, ?_, ?_⟩ <;>
        simp [Response.ok, Response.error, Response.internalError]
    | error e =>
      rw [runQuery_failed selects run]
      refine ⟨?_, fun _ => ⟨selection, e, selects, run⟩, ?_, ?_, ?_⟩ <;>
        simp [Response.error, Response.internalError, keys]
  · rw [runQuery_unsupported unsupported]
    refine ⟨?_, ?_, fun _ => unsupported, ?_, ?_⟩ <;>
      simp [Response.error, Response.internalError, apart]
  · rw [runQuery_invalid invalid]
    refine ⟨?_, ?_, ?_, fun _ => invalid, ?_⟩ <;>
      simp [Response.error, Response.internalError, apart.symm]
  · obtain ⟨what, unread⟩ := unread
    rw [runQuery_unread unread]
    refine ⟨?_, ?_, ?_, ?_, fun _ => ⟨what, unread⟩⟩ <;>
      simp [Response.error, Response.internalError, keys.symm]

/-! ### Requests -/

structure Request.Asks (depth : Nat) (request : Request) (name line : Text) : Prop where
  method : request.method = "POST"
  target : request.target = "/api/query"
  document : ∃ entries, request.document? depth = some (.mapping entries) ∧
    Keyed.get? entries "dbName" = some (.text name) ∧
    Keyed.get? entries "query" = some (.text line)

theorem respond_query {request : Request} (method : request.method = "POST")
    (target : request.target = "/api/query") :
    respond depth catalog request = request.withEntries depth (Http.query catalog) := by
  have route : Route.ofPath? (Address.ofTarget "/api/query").path = some ⟨.query, false⟩ := by
    decide +kernel
  have plain : (Address.ofTarget "/api/query").isSocket = false := by decide +kernel
  have allowed : Endpoint.query.allows (Method.ofName "POST") = true := by decide +kernel
  have post : Method.ofName "POST" ≠ .options := by decide +kernel
  have other : Text.ofString "POST" ≠ "HEAD" := by decide
  unfold respond answer
  rw [method, target]
  simp [route, plain, allowed, post, other, Endpoint.respond]

theorem respond_of_asks {request : Request} (asks : request.Asks depth name line) (named : name ≠ [])
    (given : line ≠ []) (present : catalog.hasDatabase name = true) :
    respond depth catalog request = runQuery catalog name line := by
  obtain ⟨method, target, entries, document, database, query⟩ := asks
  have found : Option.filter catalog.hasDatabase (some name) = some name := by
    rw [Option.filter_some, if_pos present]
  have answered : Http.query catalog entries = runQuery catalog name line := by
    simp [Http.query, database, query, Value.isGiven, Value.isScalar, Value.text?, named, given,
      found]
  rw [respond_query method target]
  simp [Request.withEntries, document, Value.entries?, answered]

/-- A query over HTTP is answered exactly if it is a selection that the engine answers, and then
the console shows the cells that are read back from the objects of the response. Where the engine
fails, the console shows why. Other statements are not supported, and all else is invalid, but for a
query with a number that is too long, which neither of the two reads. -/
theorem respond_agrees {request : Request} (asks : request.Asks depth name line) (named : name ≠ [])
    (given : line ≠ []) (present : catalog.hasDatabase name = true) :
    ((respond depth catalog request).status = 200 ↔
      ∃ selection answer, Selects line selection ∧
        catalog.run selection (some name) = .ok answer) ∧
    (∀ selection answer, Selects line selection →
      catalog.run selection (some name) = .ok answer →
      ∃ objects : List (List (Text × Value)),
        respond depth catalog request =
          .ok [("result", .list (objects.map .mapping)),
            ("columns", .list (answer.columns.map .text))] ∧
        (objects.mapM fun entries => answer.columns.mapM (Keyed.get? entries)) =
          some answer.rows ∧
        (Session.submit catalog line { database := some name }).1 =
          .ok (some (Layout.result answer.columns answer.rows))) ∧
    (respond depth catalog request = .error 500 "Query execution failed" ↔
      ∃ selection e, Selects line selection ∧ catalog.run selection (some name) = .error e) ∧
    (∀ selection e, Selects line selection → catalog.run selection (some name) = .error e →
      (Session.submit catalog line { database := some name }).1 =
        .ok (some ("Error: " ++ e.message))) ∧
    (respond depth catalog request = .error 400 "Unsupported query type" ↔ IsUnsupported line) ∧
    (respond depth catalog request = .error 400 "Invalid query" ↔ IsInvalid line) ∧
    (respond depth catalog request = .internalError ↔
      ∃ what, Statement.parse line = .error what) := by
  rw [respond_of_asks asks named given present]
  obtain ⟨answered, failed, unsupported, invalid, unread⟩ := cases_of_runQuery catalog name line
  have chosen : Session.selected? { database := some name } = some name := by
    have visible : name ≠ "" := named
    simp [Session.selected?, visible]
  have shown : ∀ selection, Selects line selection →
      (Session.submit catalog line { database := some name }).1 =
        .ok (some (Session.select catalog selection { database := some name })) :=
    fun selection selects => Session.submit_selection rfl selects
  refine ⟨⟨answered, ?_⟩, ?_, ⟨failed, ?_⟩, ?_, ⟨unsupported, runQuery_unsupported⟩,
    ⟨invalid, runQuery_invalid⟩, ⟨unread, ?_⟩⟩
  · rintro ⟨selection, answer, selects, run⟩
    rw [runQuery_answered selects run]
    rfl
  · intro selection answer selects run
    obtain ⟨objects, same, read⟩ := Catalog.exists_rowObjects selects run
    refine ⟨objects, ?_, read, ?_⟩
    · rw [runQuery_answered selects run, same]
    · simp only [shown selection selects, Session.select, chosen, run]
  · rintro ⟨selection, e, selects, run⟩
    exact runQuery_failed selects run
  · intro selection e selects run
    simp only [shown selection selects, Session.select, chosen, run]
  · rintro ⟨what, unread⟩
    exact runQuery_unread unread

/-- A request for the titles of the games, twice. -/
def titlesTwice : Request where
  method := "POST"
  target := "/api/query"
  body := some
    "\x7b\"dbName\": \"private_db\", \"query\": \"SELECT title, TITLE FROM games;\"\x7d".toUTF8.data.toList

def titles : Selection where
  columns := ["title", "TITLE"]
  table := "games"
  tableAlias := none
  condition := none
  groupBy := []
  orderBy := []
  limit := none
  offset := none

theorem respond_agrees_titlesTwice :
    ∃ (answer : ResultSet) (objects : List (List (Text × Value))),
      Catalog.bundled.run titles (some "private_db") = .ok answer ∧
      respond 1 .bundled titlesTwice =
        .ok [("result", .list (objects.map .mapping)),
          ("columns", .list [.text "title", .text "title"])] ∧
      (objects.mapM fun entries => answer.columns.mapM (Keyed.get? entries)) = some answer.rows ∧
      (Session.submit .bundled "SELECT title, TITLE FROM games;"
        { database := some "private_db" }).1 =
          .ok (some (Layout.result answer.columns answer.rows)) := by
  have document : titlesTwice.document? 1 = some (.mapping [("dbName", .text "private_db"),
      ("query", .text "SELECT title, TITLE FROM games;")]) := by decide +kernel
  have selects : Selects "SELECT title, TITLE FROM games;" titles :=
    ⟨⟨"SELECT title, TITLE FROM games;", .select titles⟩, by decide +kernel, rfl⟩
  have asks : titlesTwice.Asks 1 "private_db" "SELECT title, TITLE FROM games;" :=
    ⟨rfl, rfl, _, document, rfl, rfl⟩
  have present : Catalog.bundled.hasDatabase "private_db" = true := by decide +kernel
  obtain ⟨-, answered, -⟩ := respond_agrees asks (by decide) (by decide) present
  obtain ⟨objects, response, read, shown⟩ := answered titles _ selects rfl
  exact ⟨_, objects, rfl, response, read, shown⟩

end Http

end SqlConsole
