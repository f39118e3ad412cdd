import SqlConsole.Proofs.Http.Query

/-!
# Bodies of requests for queries

What is answered to a content that is posted for a query, whatever its shape (`respond_answers`). A
content without the types of a request for a query, or with a query whose number is too long
(`IsUnforeseen`), is answered by an internal error, and any other by an answer of the service, each
given for its own reason (`Answers`).
-/

namespace SqlConsole

theorem Value.eq_of_text? {v : Value} {t : Text} (read : v.text? = some t) : v = .text t := by
  cases v <;> cases read
  rfl

namespace Http

open Statement (Selects)

variable {depth : Nat} {catalog : Catalog} {request : Request} {content : Except Json.Refusal Value}
  {database text : Value} {entries : List (Text × Value)} {r : Response}

/-- Whether a request posts a content for a query: the document that its body is read as, or why
it is read as none. -/
structure Request.Posts (depth : Nat) (request : Request)
    (content : Except Json.Refusal Value) : Prop where
  method : request.method = "POST"
  target : request.target = "/api/query"
  json : isJson request.contentType = true
  body : ∃ bytes body, request.body = some bytes ∧ Text.ofBytes? bytes = some body ∧
    Json.read depth body = content

structure Gives (content : Except Json.Refusal Value) (database text : Value) : Prop where
  entry : ∃ entries, content = .ok (.mapping entries) ∧
    Keyed.get? entries "dbName" = some database ∧ Keyed.get? entries "query" = some text
  database_given : database.isGiven = true
  text_given : text.isGiven = true

/-- What the service does not foresee: a document nested too deep, one that is given and is no
object, a database that is a list or an object, and a query of a database that is no text or has a
number that is too long. -/
inductive IsUnforeseen (catalog : Catalog) (content : Except Json.Refusal Value) : Prop
  | depth (refused : content = .error .tooDeep)
  | shape {document : Value} (read : content = .ok document) (given : document.isGiven = true)
      (shape : document.entries? = none)
  | database {database text : Value} (gives : Gives content database text)
      (compound : database.isScalar = false)
  | query {name : Text} {text : Value} (gives : Gives content (.text name) text)
      (present : catalog.hasDatabase name = true) (shape : text.text? = none)
  | number {name line : Text} {what : Overlong} (gives : Gives content (.text name) (.text line))
      (present : catalog.hasDatabase name = true) (unread : Statement.parse line = .error what)

/-- The answers to queries, and why each is given. -/
inductive Answers (catalog : Catalog) (content : Except Json.Refusal Value) : Response → Prop
  | required (lacking : ∀ database text, ¬ Gives content database text) :
      Answers catalog content (.error 400 "Database name and query are required")
  | notFound {database text : Value} (gives : Gives content database text)
      (absent : ∀ name, database = .text name → catalog.hasDatabase name = false) :
      Answers catalog content (.error 404 "Database not found")
  | invalid {name line : Text} (gives : Gives content (.text name) (.text line))
      (present : catalog.hasDatabase name = true) (invalid : IsInvalid line) :
      Answers catalog content (.error 400 "Invalid query")
  | unsupported {name line : Text} (gives : Gives content (.text name) (.text line))
      (present : catalog.hasDatabase name = true) (unsupported : IsUnsupported line) :
      Answers catalog content (.error 400 "Unsupported query type")
  | failed {name line : Text} {selection : Selection} {e : QueryError}
      (gives : Gives content (.text name) (.text line))
      (present : catalog.hasDatabase name = true) (selects : Selects line selection)
      (run : catalog.run selection (some name) = .error e) :
      Answers catalog content (.error 500 "Query execution failed")
  | rows {name line : Text} {selection : Selection} {answer : ResultSet}
      (gives : Gives content (.text name) (.text line))
      (present : catalog.hasDatabase name = true) (selects : Selects line selection)
      (run : catalog.run selection (some name) = .ok answer) :
      Answers catalog content
        (.ok [("result", .list (answer.rows.map (rowObject answer.columns))),
          ("columns", .list (answer.columns.map .text))])

inductive IsAnswer : Response → Prop
  | rows (objects columns : List Value) :
      IsAnswer (.ok [("result", .list objects), ("columns", .list columns)])
  | required : IsAnswer (.error 400 "Database name and query are required")
  | notFound : IsAnswer (.error 404 "Database not found")
  | invalid : IsAnswer (.error 400 "Invalid query")
  | unsupported : IsAnswer (.error 400 "Unsupported query type")
  | failed : IsAnswer (.error 500 "Query execution failed")

theorem Answers.isAnswer (answers : Answers catalog content r) : IsAnswer r := by
  cases answers with
  | required => exact .required
  | notFound => exact .notFound
  | invalid => exact .invalid
  | unsupported => exact .unsupported
  | failed => exact .failed
  | rows => exact .rows _ _

theorem IsAnswer.ne_internalError (answer : IsAnswer r) : r ≠ .internalError := by
  have apart : Text.ofString "error" ≠ "message" := by decide
  cases answer <;> simp [Response.ok, Response.error, Response.internalError, apart]

/-! ### Contents -/

def entriesOf? : Except Json.Refusal Value → Option (List (Text × Value))
  | .ok document => if document.isGiven then document.entries? else some []
  | .error .tooDeep => none
  | .error _ => some []

theorem respond_of_posts (posts : request.Posts depth content) :
    respond depth catalog request =
      (entriesOf? content).elim .internalError (query catalog) := by
  obtain ⟨method, target, json, bytes, body, sent, decoded, read⟩ := posts
  have taken : (request.document? depth).bind Value.entries? = entriesOf? content := by
    simp only [Request.document?, json, if_true, sent, Option.bind_some, decoded, read]
    match content with
    | .ok document => cases given : document.isGiven <;> simp [entriesOf?, given, Value.entries?]
    | .error .tooDeep => rfl
    | .error .malformed => rfl
    | .error (.overlong _) => rfl
  rw [respond_query method target, Request.withEntries, taken]
  cases entriesOf? content <;> rfl

theorem entriesOf?_eq_none (none : entriesOf? content = none) : IsUnforeseen catalog content := by
  match content with
  | .ok document =>
    rw [entriesOf?] at none
    split at none
    · rename_i given
      exact .shape rfl given none
    · cases none
  | .error .tooDeep => exact .depth rfl
  | .error .malformed => cases none
  | .error (.overlong _) => cases none

theorem eq_of_entriesOf? (taken : entriesOf? content = some entries) (given : entries ≠ []) :
    content = .ok (.mapping entries) := by
  match content with
  | .ok document =>
    rw [entriesOf?] at taken
    split at taken
    · cases document <;> cases taken
      rfl
    · cases taken
      exact absurd rfl given
  | .error .tooDeep => cases taken
  | .error .malformed =>
    cases taken
    exact absurd rfl given
  | .error (.overlong _) =>
    cases taken
    exact absurd rfl given

theorem Gives.exists_entries (gives : Gives content database text) :
    ∃ entries, entriesOf? content = some entries ∧
      Keyed.get? entries "dbName" = some database ∧ Keyed.get? entries "query" = some text := by
  obtain ⟨entries, rfl, first, second⟩ := gives.entry
  have given : (Value.mapping entries).isGiven = true := by
    cases entries with
    | nil => cases first
    | cons e es => rfl
  refine ⟨entries, ?_, first, second⟩
  rw [entriesOf?, if_pos given]
  rfl

theorem gives_iff (taken : entriesOf? content = some entries) :
    Gives content database text ↔
      Keyed.get? entries "dbName" = some database ∧ Keyed.get? entries "query" = some text ∧
        database.isGiven = true ∧ text.isGiven = true := by
  constructor
  · intro gives
    obtain ⟨es, same, first, second⟩ := gives.exists_entries
    cases taken.symm.trans same
    exact ⟨first, second, gives.database_given, gives.text_given⟩
  · rintro ⟨first, second, databaseGiven, textGiven⟩
    have given : entries ≠ [] := by
      rintro rfl
      cases first
    exact ⟨⟨entries, eq_of_entriesOf? taken given, first, second⟩, databaseGiven, textGiven⟩

/-! ### Queries -/

theorem query_of_lacking (taken : entriesOf? content = some entries)
    (lacking : ∀ database text, ¬ Gives content database text) :
    query catalog entries = .error 400 "Database name and query are required" := by
  have missing : (!((Keyed.get? entries "dbName").getD .null).isGiven ||
      !((Keyed.get? entries "query").getD .null).isGiven) = true := by
    cases first : Keyed.get? entries "dbName" with
    | none => rfl
    | some database =>
      cases second : Keyed.get? entries "query" with
      | none => simp [Value.isGiven]
      | some text =>
        have apart := mt (gives_iff taken).mpr (lacking database text)
        simpa [first, second, ← Bool.not_eq_true, imp_iff_not_or] using apart
  rw [query, if_pos missing]

theorem query_of_gives (taken : entriesOf? content = some entries)
    (gives : Gives content database text) :
    query catalog entries =
      if database.isScalar then
        match database.text?.filter catalog.hasDatabase with
        | none => .error 404 "Database not found"
        | some name => text.text?.elim .internalError (runQuery catalog name)
      else .internalError := by
  obtain ⟨first, second, databaseGiven, textGiven⟩ := (gives_iff taken).mp gives
  simp only [query, first, second, Option.getD_some, databaseGiven, textGiven, Bool.not_true,
    Bool.or_false, Bool.false_eq_true, if_false]
  cases database.isScalar with
  | false => rfl
  | true =>
    cases database.text?.filter catalog.hasDatabase with
    | none => rfl
    | some name => cases text.text? <;> rfl

theorem answers_of_runQuery {name line : Text} (gives : Gives content (.text name) (.text line))
    (present : catalog.hasDatabase name = true)
    (readable : ∀ what, Statement.parse line ≠ .error what) :
    Answers catalog content (runQuery catalog name line) := by
  rcases selects_or line with ⟨selection, selects⟩ | unsupported | invalid | ⟨what, unread⟩
  · cases run : catalog.run selection (some name) with
    | ok answer =>
      rw [runQuery_answered selects run]
      exact .rows gives present selects run
    | error e =>
      rw [runQuery_failed selects run]
      exact .failed gives present selects run
  · rw [runQuery_unsupported unsupported]
    exact .unsupported gives present unsupported
  · rw [runQuery_invalid invalid]
    exact .invalid gives present invalid
  · exact absurd unread (readable what)

/-! ### Requests -/

theorem respond_unforeseen (posts : request.Posts depth content)
    (unforeseen : IsUnforeseen catalog content) :
    respond depth catalog request = .internalError := by
  rw [respond_of_posts posts]
  cases unforeseen with
  | depth refused =>
    rw [refused]
    rfl
  | shape read given shape =>
    rw [read, entriesOf?, if_pos given, shape]
    rfl
  | database gives compound =>
    obtain ⟨entries, taken, -⟩ := gives.exists_entries
    rw [taken, Option.elim_some, query_of_gives taken gives, compound]
    rfl
  | query gives present shape =>
    obtain ⟨entries, taken, -⟩ := gives.exists_entries
    rw [taken, Option.elim_some, query_of_gives taken gives, shape]
    simp only [Value.isScalar, Value.text?, Option.filter_some, present, if_true, Option.elim_none]
  | number gives present unread =>
    obtain ⟨entries, taken, -⟩ := gives.exists_entries
    rw [taken, Option.elim_some, query_of_gives taken gives]
    simp only [Value.isScalar, Value.text?, Option.filter_some, present, if_true, Option.elim_some,
      runQuery_unread unread]

theorem respond_foreseen (posts : request.Posts depth content)
    (foreseen : ¬ IsUnforeseen catalog content) :
    Answers catalog content (respond depth catalog request) := by
  rw [respond_of_posts posts]
  cases taken : entriesOf? content with
  | none => exact absurd (entriesOf?_eq_none taken) foreseen
  | some entries =>
    rw [Option.elim_some]
    by_cases lacking : ∀ database text, ¬ Gives content database text
    · rw [query_of_lacking taken lacking]
      exact .required lacking
    push Not at lacking
    obtain ⟨database, text, gives⟩ := lacking
    have scalar : database.isScalar = true := by
      by_contra compound
      exact foreseen (.database gives (by simpa using compound))
    rw [query_of_gives taken gives, if_pos scalar]
    cases found : database.text?.filter catalog.hasDatabase with
    | none =>
      refine .notFound gives fun name same => ?_
      subst same
      simpa [Value.text?] using found
    | some name =>
      obtain ⟨same, present⟩ := Option.filter_eq_some_iff.mp found
      obtain rfl := Value.eq_of_text? same
      cases read : text.text? with
      | none => exact absurd (.query gives present read) foreseen
      | some line =>
        obtain rfl := Value.eq_of_text? read
        refine answers_of_runQuery gives present fun what unread => ?_
        exact foreseen (.number gives present unread)

/-- A content that is posted for a query is answered by an internal error exactly if it is not
foreseen, and otherwise by one of the answers to queries, for its reason. -/
theorem respond_answers (posts : request.Posts depth content) :
    (IsUnforeseen catalog content → respond depth catalog request = .internalError) ∧
      (¬ IsUnforeseen catalog content → Answers catalog content (respond depth catalog request)) ∧
      (IsAnswer (respond depth catalog request) ↔ ¬ IsUnforeseen catalog content) := by
  refine ⟨respond_unforeseen posts, respond_foreseen posts, ?_, ?_⟩
  · intro answer unforeseen
    exact answer.ne_internalError (respond_unforeseen posts unforeseen)
  · intro foreseen
    exact (respond_foreseen posts foreseen).isAnswer

def posting (body : String) : Request where
  method := "POST"
  target := "/api/query"
  body := some body.toUTF8.data.toList

theorem posts_posting {body : String} (text : Text)
    (decoded : Text.ofBytes? body.toUTF8.data.toList = some text)
    (read : Json.read depth text = content) : (posting body).Posts depth content := by
  have json : isJson "application/json" = true := by decide +kernel
  exact ⟨rfl, rfl, json, _, text, rfl, decoded, read⟩

def numbered : Value := .mapping [("dbName", .text "career_db"), ("query", .integer 5)]

def numberedText : String := "\x7b\"dbName\": \"career_db\", \"query\": 5\x7d"

theorem respond_answers_numbered :
    (posting numberedText).Posts 1 (.ok numbered) ∧ IsUnforeseen .bundled (.ok numbered) ∧
      respond 1 .bundled (posting numberedText) = .internalError := by
  have posts : (posting numberedText).Posts 1 (.ok numbered) :=
    posts_posting numberedText (by decide +kernel) (by decide +kernel)
  have unforeseen : IsUnforeseen .bundled (.ok numbered) :=
    .query ⟨⟨_, rfl, rfl, rfl⟩, rfl, rfl⟩ (by decide +kernel) rfl
  exact ⟨posts, unforeseen, (respond_answers posts).1 unforeseen⟩

/-- A list of one number is answered by an internal error, which is no answer to a query. -/
theorem respond_list :
    (posting "[1]").Posts 1 (.ok (.list [.integer 1])) ∧
      respond 1 .bundled (posting "[1]") = .internalError ∧
      ¬ IsAnswer (respond 1 .bundled (posting "[1]")) := by
  have posts : (posting "[1]").Posts 1 (.ok (.list [.integer 1])) :=
    posts_posting "[1]" (by decide +kernel) (by decide +kernel)
  have error : respond 1 .bundled (posting "[1]") = .internalError := by decide +kernel
  exact ⟨posts, error, fun answer => answer.ne_internalError error⟩

end Http

end SqlConsole
