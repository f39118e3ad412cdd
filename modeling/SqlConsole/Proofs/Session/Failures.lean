import SqlConsole.Proofs.Session.Submission

/-!
# Lines that fail

What a line without an answer and a statement that fails leave behind (`run_intact`). Only what is
pending and the log of commands tells that they were there; the current database only changes with a
statement that names another one, or when the session is closed.
-/

namespace SqlConsole

def Request.needsDatabase : Request → Bool
  | .showTables | .describeTable _ | .select _ => true
  | _ => false

namespace Session

variable {catalog : Catalog} {s : Session} {line : Text} {statement : Statement}

/-! ### Lines without an answer -/

/-- What is pending after a line without an answer: nothing if the line is blank with nothing
pending or an unknown command with a backslash, and otherwise the unfinished statement up to the
line. -/
inductive Leaves (s : Session) (line : Text) : Option Text → Prop
  | blank (blank : line.trim = []) (idle : s.pending = none) : Leaves s line none
  | first (idle : s.pending = none) (unfinished : Statement.IsUnfinished line) :
      Leaves s line (some line)
  | further {text : Text} (waiting : s.pending = some text)
      (unfinished : Statement.IsUnfinished (text ++ "\n" ++ line)) :
      Leaves s line (some (text ++ "\n" ++ line))
  | unknown (backslash : line.trim.head? = some (.char '\\'))
      (absent : Statement.parse line = .ok none) : Leaves s line none

theorem leaves_pendingAfter (consistent : s.IsConsistent catalog)
    (unread : Statement.parse (s.lineCommand line) = .ok none) :
    Leaves s line (s.pendingAfter line) := by
  unfold lineCommand at unread
  unfold pendingAfter
  split at unread
  · rename_i backslash
    rw [if_pos backslash]
    refine .unknown backslash ?_
    rwa [Statement.parse, Text.trim_eq_self line.trim_isTrimmed] at unread
  rename_i plain
  rw [if_neg plain]
  cases waiting : s.pending with
  | none =>
    have command : s.commandOf line = line := by simp only [commandOf, waiting]
    rw [command] at unread ⊢
    split
    · rename_i blank
      exact .blank blank waiting
    · rename_i visible
      exact .first waiting (Statement.isUnfinished_of_parse visible plain unread)
  | some text =>
    have unfinished := consistent.pending text waiting
    have unended : line.trim.getLast? ≠ some (.char ';') := by
      intro ended
      obtain ⟨x, whole, last⟩ := exists_commandOf waiting ended
      rw [whole] at unread
      exact unfinished.parse_append_ne_none last unread
    have longer := unfinished.append_line unended
    have bare : line.trim ≠ ";" := by
      intro bare
      exact unended (by rw [bare]; rfl)
    have command : s.commandOf line = text ++ "\n" ++ line := by
      simp only [commandOf, waiting, if_neg bare]
    have visible : (text ++ "\n" ++ line).trim ≠ "" := longer.visible
    rw [command, if_neg visible]
    exact .further waiting longer

/-! ### Statements that fail -/

/-- A request that fails in a session, with what is reported: it was refused, it would write, the
database that it changes to or the current one is missing, or what it asks of that one is. -/
inductive Fails (catalog : Catalog) (s : Session) (dialect : Dialect) : Request → Text → Prop
  | refused (message token : Text) :
      Fails catalog s dialect (.refused message token)
        (Layout.errorReport message 1 token dialect)
  | write (operation : WriteOperation) :
      Fails catalog s dialect (.write operation)
        ("Error: " ++ operation.name ++ " operation is not allowed in read-only mode")
  | database {name : Text} (absent : name ∉ catalog.databaseNames) :
      Fails catalog s dialect (.useDatabase name)
        ("Error: Database \"" ++ name ++ "\" does not exist")
  | unselected {request : Request} (needs : request.needsDatabase = true)
      (none : s.selected? = none) : Fails catalog s dialect request noDatabase
  | table {name database : Text} (selected : s.selected? = some database)
      (absent : catalog.table? database name = none) :
      Fails catalog s dialect (.describeTable name) ("Error: Table \"" ++ name ++ "\" not found")
  | query {selection : Selection} {database : Text} {e : QueryError}
      (selected : s.selected? = some database)
      (failed : catalog.run selection (some database) = .error e) :
      Fails catalog s dialect (.select selection) ("Error: " ++ e.message)

theorem answer_of_fails {request : Request} {dialect : Dialect} {report : Text}
    (fails : Fails catalog s dialect request report) :
    s.answer catalog request dialect = (report, s) := by
  cases fails with
  | refused message token => rfl
  | write operation => rfl
  | database absent =>
    have missing := mt Catalog.hasDatabase_iff.mp absent
    simp only [answer, useDatabase, missing, Bool.false_eq_true, if_false]
  | unselected needs none =>
    cases request with
    | showTables => simp only [answer, none]
    | describeTable table => simp only [answer, describe, none]
    | select selection => simp only [answer, select, none]
    | _ => cases needs
  | table selected absent => simp only [answer, describe, selected, absent]
  | query selected failed => simp only [answer, select, selected, failed]

theorem Fails.of_selected {u : Session} {request : Request} {dialect : Dialect} {report : Text}
    (fails : Fails catalog s dialect request report) (same : u.selected? = s.selected?) :
    Fails catalog u dialect request report := by
  cases fails with
  | refused message token => exact .refused message token
  | write operation => exact .write operation
  | database absent => exact .database absent
  | unselected needs none => exact .unselected needs (same.trans none)
  | table selected absent => exact .table (same.trans selected) absent
  | query selected failed => exact .query (same.trans selected) failed

theorem submit_of_fails {report : Text} (read : s.executed? (.submit line) = some statement)
    (fails : Fails catalog s statement.dialect statement.request report) :
    s.submit catalog line =
      (.ok (some report),
        { s with
          lastCommand := some statement.command, history := statement.command :: s.history,
          cursor := none, pending := none }) := by
  have ready : Fails catalog
      { s.readyFor statement.command with lastCommand := some statement.command }
      statement.dialect statement.request report := fails.of_selected rfl
  rw [submit_eq_execute (parse_of_executed read), execute, answer_of_fails ready]
  rfl

/-! ### Changes of the database -/

theorem answer_changes {request : Request} {dialect : Dialect}
    (changed : (s.answer catalog request dialect).2.database ≠ s.database) :
    ∃ name ∈ catalog.databaseNames, request = .useDatabase name ∧
      (s.answer catalog request dialect).2.database = some name := by
  cases request with
  | useDatabase name =>
    simp only [answer, useDatabase] at changed ⊢
    split at changed
    · rename_i present
      refine ⟨name, Catalog.hasDatabase_iff.mp present, rfl, ?_⟩
      rw [if_pos present]
    · exact absurd rfl changed
  | showTables =>
    simp only [answer] at changed
    split at changed <;> exact absurd rfl changed
  | _ => exact absurd rfl changed

/-- An action that changes the database closes the session or executes a statement that names the
new one. -/
theorem step_changes {action : Action}
    (changed : (s.step catalog action).2.database ≠ s.database) :
    action = .close ∨ ∃ name ∈ catalog.databaseNames, ∃ statement,
      s.executed? action = some statement ∧ statement.request = .useDatabase name ∧
        (s.step catalog action).2.database = some name := by
  cases read : s.executed? action with
  | some statement =>
    obtain ⟨ready, same, answered⟩ := step_of_executed read
    rw [answered] at changed ⊢
    obtain ⟨name, present, request, chosen⟩ :=
      answer_changes (s := { ready with lastCommand := some statement.command })
        (fun kept => changed (kept.trans same))
    exact .inr ⟨name, present, statement, rfl, request, chosen⟩
  | none =>
    cases action with
    | submit line =>
      obtain ⟨out, waiting, kept, -, same⟩ := submit_of_executed_none read
      exact absurd kept (by simpa only [step, same] using changed)
    | execute statement => cases read
    | cancel => cases read
    | previous => exact absurd s.previous_keeps.1 changed
    | next => exact absurd s.next_keeps.1 changed
    | close => exact .inl rfl
    | _ => exact absurd rfl changed

/-- In any state of a run from a fresh session, a line without an answer changes nothing but what
is pending, a line that cannot be read not even that, a statement that fails is answered with its
report and only remembered, the database changes only with a statement that names the new one or
when the session is closed, and cancelling only drops what is pending. -/
theorem run_intact (catalog : Catalog) (actions : List Action) :
    ∀ s ∈ {} :: (run catalog {} actions).map Prod.snd,
      (∀ line, (s.submit catalog line).1 = .ok none →
        ∃ pending, s.Leaves line pending ∧
          (s.submit catalog line).2 = { s with cursor := none, pending }) ∧
      (∀ line what, (s.submit catalog line).1 = .error what →
        (s.submit catalog line).2 = { s with cursor := none }) ∧
      (∀ line statement report, s.executed? (.submit line) = some statement →
        Fails catalog s statement.dialect statement.request report →
        s.submit catalog line =
          (.ok (some report),
            { s with
              lastCommand := some statement.command, history := statement.command :: s.history,
              cursor := none, pending := none })) ∧
      (∀ action, (s.step catalog action).2.database ≠ s.database →
        action = .close ∨ ∃ name ∈ catalog.databaseNames, ∃ statement,
          s.executed? action = some statement ∧ statement.request = .useDatabase name ∧
            (s.step catalog action).2.database = some name) ∧
      (s.cancel catalog).2 = { s with pending := none, lastCommand := some [] } := by
  intro s member
  have consistent := consistent_of_reached member
  refine ⟨fun line unanswered => ?_, fun line what raised => ?_,
    fun line statement report => submit_of_fails, fun action => step_changes, rfl⟩
  · have unread := submit_fst_eq_none_iff.mp unanswered
    exact ⟨s.pendingAfter line, leaves_pendingAfter consistent unread,
      by rw [submit_eq_none unread]⟩
  · rw [submit_eq_error (submit_fst_eq_error_iff.mp raised)]

def bareCatalog : Catalog := ⟨[⟨"log", []⟩, ⟨"map", []⟩]⟩

/-- A question for the columns of a table waits, and is followed by a line that does not complete
it, by the name of a table that does not exist, or by a command for another database. -/
theorem run_intact_waiting :
    ∃ s : Session, s.pending = some (Text.ofString "describe") ∧
      (∃ pending, s.Leaves " -- t" pending ∧
        (s.submit bareCatalog " -- t").2 = { s with cursor := none, pending }) ∧
      s.submit bareCatalog "t;" =
        (.ok (some (Text.ofString "Error: Table \"t\" not found")),
          { s with
            lastCommand := some "describe\nt;", history := "describe\nt;" :: s.history,
            cursor := none, pending := none }) ∧
      ∃ name ∈ bareCatalog.databaseNames,
        (s.step bareCatalog (.submit "\\c map")).2.database = some name := by
  have reached :
      { database := some "log", lastCommand := some "\\c log",
        history := [Text.ofString "\\c log"], pending := some "describe" } ∈
        {} :: (run bareCatalog {} [.submit "\\c log", .submit "describe"]).map Prod.snd := by
    decide +kernel
  obtain ⟨unanswered, -, failed, changed, -⟩ := run_intact bareCatalog _ _ reached
  refine ⟨_, rfl, unanswered " -- t" (by decide +kernel), ?_, ?_⟩
  · exact failed "t;" ⟨"describe\nt;", .describeTable "t"⟩ _ (by decide +kernel) (.table rfl rfl)
  · rcases changed (.submit "\\c map") (by decide +kernel) with
      closed | ⟨name, present, -, -, -, new⟩
    · cases closed
    · exact ⟨name, present, new⟩

end Session

end SqlConsole
