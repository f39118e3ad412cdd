import SqlConsole.Proofs.Session.Submission

/-!
# Isolation

A session only tells of the databases it has changed to. Where two catalogs have the same names of
databases and the same in each of those, a run is the same over both (`run_isolates`).
-/

namespace SqlConsole

theorem Catalog.database?_eq_none {catalog : Catalog} {name : Text}
    (absent : name ∉ catalog.databaseNames) : catalog.database? name = none := by
  rwa [← hasDatabase_iff, hasDatabase, Option.not_isSome_iff_eq_none] at absent

namespace Session

variable {catalog other : Catalog} {s : Session}

/-! ### What is executed -/

def executed (catalog : Catalog) (s : Session) : List Action → List Statement
  | [] => []
  | action :: rest =>
    (s.executed? action).toList ++ executed catalog (s.step catalog action).2 rest

/-- The databases that are changed to in a run of a fresh session, whether or not they exist. -/
def usedDatabases (catalog : Catalog) (actions : List Action) : List Text :=
  (executed catalog {} actions).filterMap fun statement => statement.request.database?

/-- An action that executes no statement gives names to complete with, or it does the same whatever
the catalog. -/
theorem step_of_idle {action : Action} (idle : s.executed? action = none) :
    (∃ text, action = .complete text) ∨
      ∃ reply after, (∀ name ∈ after.database, name ∈ s.database) ∧
        ∀ catalog, s.step catalog action = (reply, after) := by
  cases action with
  | submit line =>
    obtain ⟨out, waiting, kept, -, same⟩ := submit_of_executed_none idle
    exact .inr ⟨.ofSubmit out, waiting, fun name => kept ▸ id,
      fun catalog => by simp only [step, same]⟩
  | execute statement => cases idle
  | cancel => cases idle
  | complete text => exact .inl ⟨text, rfl⟩
  | previous =>
    exact .inr ⟨_, s.previous.2, fun name => s.previous_keeps.1 ▸ id, fun catalog => rfl⟩
  | next => exact .inr ⟨_, s.next.2, fun name => s.next_keeps.1 ▸ id, fun catalog => rfl⟩
  | close => exact .inr ⟨_, _, by simp, fun catalog => rfl⟩
  | clearExited =>
    exact .inr ⟨.done, { s with exited := false }, fun name => id, fun catalog => rfl⟩

/-! ### What is told of the catalog -/

/-- Whether two catalogs have the same in the current database. -/
def Agrees (catalog other : Catalog) (s : Session) : Prop :=
  ∀ name ∈ s.database, catalog.database? name = other.database? name

theorem Agrees.selected {name : Text} (agrees : s.Agrees catalog other)
    (selected : s.selected? = some name) : catalog.database? name = other.database? name :=
  agrees name (Option.filter_eq_some_iff.mp selected).1

theorem answer_eq (names : catalog.databaseNames = other.databaseNames)
    (agrees : s.Agrees catalog other) (request : Request) (dialect : Dialect) :
    s.answer catalog request dialect = s.answer other request dialect := by
  cases request with
  | showDatabases => simp only [answer, names]
  | useDatabase name =>
    have exists_iff : catalog.hasDatabase name = other.hasDatabase name := by
      rw [Bool.eq_iff_iff, Catalog.hasDatabase_iff, Catalog.hasDatabase_iff, names]
    simp only [answer, useDatabase, exists_iff]
  | showTables =>
    cases chosen : s.selected? with
    | none => simp only [answer, chosen]
    | some name => simp only [answer, chosen, Catalog.tableNames, agrees.selected chosen]
  | describeTable table =>
    cases chosen : s.selected? with
    | none => simp only [answer, describe, chosen]
    | some name => simp only [answer, describe, chosen, Catalog.table?, agrees.selected chosen]
  | select selection =>
    cases chosen : s.selected? with
    | none => simp only [answer, select, chosen]
    | some name =>
      simp only [answer, select, chosen, Catalog.run, Option.bind_some, agrees.selected chosen]
  | _ => rfl

theorem execute_eq (names : catalog.databaseNames = other.databaseNames)
    (agrees : s.Agrees catalog other) (statement : Statement) :
    s.execute catalog statement = s.execute other statement :=
  answer_eq (s := { s with lastCommand := some statement.command }) names agrees _ _

theorem complete_eq (names : catalog.databaseNames = other.databaseNames)
    (agrees : s.Agrees catalog other) (text : Text) :
    s.complete catalog text = s.complete other text := by
  have current : s.database.bind catalog.database? = s.database.bind other.database? :=
    Option.bind_congr agrees
  simp only [complete, Suggestion.complete, Suggestion.candidates, names, current]

/-! ### Steps and runs -/

theorem answer_database (catalog : Catalog) (s : Session) (request : Request)
    (dialect : Dialect) : ∀ name ∈ (s.answer catalog request dialect).2.database,
      name ∈ s.database ∨ name ∈ request.database? := by
  intro name chosen
  cases request with
  | useDatabase used =>
    simp only [answer, useDatabase] at chosen
    split at chosen
    · exact .inr chosen
    · exact .inl chosen
  | showTables =>
    simp only [answer] at chosen
    split at chosen <;> exact .inl chosen
  | _ => exact .inl chosen

theorem step_isolates (names : catalog.databaseNames = other.databaseNames)
    (agrees : s.Agrees catalog other) {action : Action}
    (same : ∀ statement ∈ s.executed? action, ∀ name ∈ statement.request.database?,
      catalog.database? name = other.database? name) :
    s.step catalog action = s.step other action ∧
      (s.step catalog action).2.Agrees catalog other := by
  cases read : s.executed? action with
  | some statement =>
    obtain ⟨ready, unchanged, answered⟩ := step_of_executed read
    have prepared : ready.Agrees catalog other := by
      intro name chosen
      exact agrees name (unchanged ▸ chosen)
    refine ⟨?_, ?_⟩
    · rw [answered, answered, execute_eq names prepared]
    · rw [answered]
      intro name chosen
      rcases answer_database catalog _ _ _ name chosen with before | used
      · exact prepared name before
      · exact same statement read name used
  | none =>
    rcases step_of_idle read with ⟨text, rfl⟩ | ⟨reply, after, kept, done⟩
    · refine ⟨?_, agrees⟩
      simp only [step, complete_eq names agrees]
    · rw [done, done]
      exact ⟨rfl, fun name chosen => agrees name (kept name chosen)⟩

theorem run_eq (names : catalog.databaseNames = other.databaseNames)
    (agrees : s.Agrees catalog other) {actions : List Action}
    (same : ∀ statement ∈ executed catalog s actions, ∀ name ∈ statement.request.database?,
      catalog.database? name = other.database? name) :
    run catalog s actions = run other s actions := by
  induction actions generalizing s with
  | nil => rfl
  | cons action rest ih =>
    obtain ⟨first, others⟩ := List.forall_mem_append.mp same
    have used : ∀ statement ∈ s.executed? action, ∀ name ∈ statement.request.database?,
        catalog.database? name = other.database? name :=
      fun statement read => first statement (Option.mem_toList.mpr read)
    -- After equal steps both sessions execute the same statements in the rest.
    obtain ⟨equal, after⟩ := step_isolates names agrees used
    simp only [run, ← equal]
    rw [ih after others]

/-- Runs over two catalogs with the same names of databases have the same replies and states if the
catalogs have the same in each database that is changed to, and always if none that exists is. -/
theorem run_isolates (names : catalog.databaseNames = other.databaseNames)
    (actions : List Action) :
    ((∀ name ∈ usedDatabases catalog actions,
        catalog.database? name = other.database? name) →
      run catalog {} actions = run other {} actions) ∧
    ((∀ name ∈ usedDatabases catalog actions, name ∉ catalog.databaseNames) →
      run catalog {} actions = run other {} actions) := by
  have isolated : (∀ name ∈ usedDatabases catalog actions,
      catalog.database? name = other.database? name) →
        run catalog {} actions = run other {} actions := by
    intro same
    refine run_eq names (by simp [Agrees]) fun statement member name used => ?_
    exact same name (List.mem_filterMap.mpr ⟨statement, member, used⟩)
  refine ⟨isolated, fun absent => isolated fun name used => ?_⟩
  rw [Catalog.database?_eq_none (absent name used),
    Catalog.database?_eq_none (names ▸ absent name used)]

def notes (entries : List Text) : Table where
  name := "notes"
  columns := ["entry"]
  rows := entries.map fun entry => [.text entry]
  columns_distinct := by simp
  rows_aligned := by simp

def notebooks (entries : List Text) : Catalog where
  databases := [⟨"open", [notes ["seen"]]⟩, ⟨"closed", [notes entries]⟩]

/-- A look at the notes of the first database. -/
def reading : List Action :=
  [.submit "use open;", .submit "select * from notes;", .complete "select ", .submit "\\dt",
    .previous, .cancel]

theorem run_isolates_notebooks :
    run (notebooks ["one"]) {} reading = run (notebooks ["two", "three"]) {} reading ∧
    run (notebooks ["one"]) {} [.complete "use ", .submit "use shut;"] =
      run (notebooks ["two", "three"]) {} [.complete "use ", .submit "use shut;"] := by
  have isolates := @run_isolates (notebooks ["one"]) (notebooks ["two", "three"]) rfl
  have used : ∀ name ∈ usedDatabases (notebooks ["one"]) reading, name = "open" := by
    decide +kernel
  refine ⟨(isolates _).1 fun name member => ?_, (isolates _).2 (by decide +kernel)⟩
  rw [used name member]
  rfl

end Session

end SqlConsole
