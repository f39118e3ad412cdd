import SqlConsole.Session
import SqlConsole.Proofs.Statement.Overlong

/-!
# Consistent sessions

Every state of a run from a fresh session is consistent (`run_consistent`): the place that is looked
at exists in the history, the current database in the catalog, and what is pending is an unfinished
statement. A semicolon brings it to an answer, but for a query with a number that is too long: this
one stays pending.
-/

namespace SqlConsole

theorem Catalog.hasDatabase_iff {catalog : Catalog} {name : Text} :
    catalog.hasDatabase name = true ↔ name ∈ catalog.databaseNames := by
  unfold hasDatabase database? databaseNames
  simp only [List.find?_isSome, beq_iff_eq, List.mem_map]

namespace Session

/-- What holds of a session at any time: its fields only refer to what there is. -/
structure IsConsistent (catalog : Catalog) (s : Session) : Prop where
  cursor : ∀ place ∈ s.cursor, place < s.history.length
  database : ∀ name ∈ s.database, name ∈ catalog.databaseNames
  pending : ∀ text ∈ s.pending, Statement.IsUnfinished text

variable {catalog : Catalog} {s : Session}

theorem fresh_consistent : IsConsistent catalog {} := by
  constructor <;> simp

/-! ### Answers -/

theorem answer_state (catalog : Catalog) (s : Session) (request : Request) (dialect : Dialect) :
    (s.answer catalog request dialect).2 = s ∨
      (s.answer catalog request dialect).2 = { s with pending := none } ∨
      (s.answer catalog request dialect).2 = { s with exited := true, pending := none } ∨
      ∃ name ∈ catalog.databaseNames,
        (s.answer catalog request dialect).2 = { s with database := some name } := by
  cases request with
  | cancel => exact .inr (.inl rfl)
  | exit => exact .inr (.inr (.inl rfl))
  | useDatabase name =>
    simp only [answer, useDatabase]
    split
    · rename_i present
      exact .inr (.inr (.inr ⟨name, Catalog.hasDatabase_iff.mp present, rfl⟩))
    · exact .inl rfl
  | showTables =>
    simp only [answer]
    split <;> exact .inl rfl
  | _ => exact .inl rfl

theorem answer_consistent (consistent : s.IsConsistent catalog) (request : Request)
    (dialect : Dialect) : (s.answer catalog request dialect).2.IsConsistent catalog := by
  obtain ⟨cursor, database, pending⟩ := consistent
  rcases answer_state catalog s request dialect with
    same | same | same | ⟨name, present, same⟩
  · rw [same]
    exact ⟨cursor, database, pending⟩
  · rw [same]
    exact ⟨cursor, database, by simp⟩
  · rw [same]
    exact ⟨cursor, database, by simp⟩
  · rw [same]
    refine ⟨cursor, ?_, pending⟩
    intro other chosen
    obtain rfl : name = other := by simpa using chosen
    exact present

theorem execute_consistent (consistent : s.IsConsistent catalog) (statement : Statement) :
    (s.execute catalog statement).2.IsConsistent catalog := by
  apply answer_consistent
  exact ⟨consistent.cursor, consistent.database, consistent.pending⟩

theorem answer_pending (request : Request) (dialect : Dialect) (idle : s.pending = none) :
    (s.answer catalog request dialect).2.pending = none := by
  rcases answer_state catalog s request dialect with
    same | same | same | ⟨name, present, same⟩
  · rw [same, idle]
  · rw [same]
  · rw [same]
  · rw [same, idle]

/-! ### Lines -/

theorem commandOf_head? (consistent : s.IsConsistent catalog) {line : Text}
    (plain : line.trim.head? ≠ some (.char '\\')) :
    (s.commandOf line).trim.head? ≠ some (.char '\\') := by
  unfold commandOf
  cases waiting : s.pending with
  | none => exact plain
  | some text =>
    have unfinished := consistent.pending text waiting
    dsimp only
    split
    · rw [unfinished.head?_append]
      exact unfinished.no_backslash
    · rw [List.append_assoc, unfinished.head?_append]
      exact unfinished.no_backslash

theorem exists_commandOf {text line : Text} (waiting : s.pending = some text)
    (ended : line.trim.getLast? = some (.char ';')) :
    ∃ x : Text, s.commandOf line = text ++ x ∧ x.trim.getLast? = some (.char ';') := by
  simp only [commandOf, waiting]
  split
  · exact ⟨";", rfl, rfl⟩
  · refine ⟨"\n" ++ line, List.append_assoc .., ?_⟩
    rw [Text.getLast?_trim_append, ended]
    rfl

theorem submitMeta_consistent (consistent : s.IsConsistent catalog) (unread : s.cursor = none)
    (command : Text) : (s.submitMeta catalog command).2.IsConsistent catalog := by
  unfold submitMeta
  dsimp only
  split
  · exact ⟨by simp [unread], consistent.database, by simp⟩
  · exact ⟨by simp [unread], consistent.database, by simp⟩
  · apply execute_consistent
    exact ⟨by simp [remember, unread], consistent.database, by simp [remember]⟩

theorem submitCommand_consistent (consistent : s.IsConsistent catalog) (unread : s.cursor = none)
    {command : Text} (plain : command.trim.head? ≠ some (.char '\\')) :
    (s.submitCommand catalog command).2.IsConsistent catalog := by
  unfold submitCommand
  split
  · exact consistent
  · rename_i visible
    split
    · exact consistent
    · rename_i absent
      refine ⟨consistent.cursor, consistent.database, ?_⟩
      intro text waiting
      obtain rfl : command = text := by simpa using waiting
      exact Statement.isUnfinished_of_parse visible plain absent
    · apply execute_consistent
      exact ⟨by simp [remember, unread], consistent.database, by simp [remember]⟩

theorem submit_consistent (consistent : s.IsConsistent catalog) (line : Text) :
    (s.submit catalog line).2.IsConsistent catalog := by
  have unread : IsConsistent catalog { s with cursor := none } :=
    ⟨by simp, consistent.database, consistent.pending⟩
  unfold submit
  dsimp only
  split
  · exact submitMeta_consistent unread rfl _
  · rename_i plain
    exact submitCommand_consistent unread rfl (commandOf_head? unread plain)

theorem submitCommand_of_parse {command : Text} {statement : Statement}
    (read : Statement.parse command = .ok (some statement)) :
    s.submitCommand catalog command =
      (.ok (some (execute catalog statement
        (({ s with pending := none } : Session).remember command.trim)).1),
       (execute catalog statement
        (({ s with pending := none } : Session).remember command.trim)).2) := by
  have visible : command.trim ≠ "" := by
    intro empty
    rw [Statement.parse, empty] at read
    exact absurd read (by simp [Text.ofString, Statement.parseTrimmed])
  simp only [submitCommand, if_neg visible, read]

theorem submitCommand_of_parse_error {command : Text} {what : Overlong}
    (fails : Statement.parse command = .error what) :
    s.submitCommand catalog command = (.error what, s) := by
  have visible : command.trim ≠ "" := by
    intro empty
    obtain ⟨body, same, -⟩ := Statement.exists_of_parse_error fails
    rw [empty] at same
    simp [Text.ofString] at same
  simp only [submitCommand, if_neg visible, fails]

theorem submitCommand_answers {command : Text} {statement : Statement}
    (read : Statement.parse command = .ok (some statement)) :
    ∃ out, (s.submitCommand catalog command).1 = .ok (some out) ∧
      (s.submitCommand catalog command).2.pending = none := by
  rw [submitCommand_of_parse read]
  exact ⟨_, rfl, answer_pending _ _ rfl⟩

theorem submitCommand_unfinished {command : Text} (unfinished : Statement.IsUnfinished command) :
    s.submitCommand catalog command = (.ok none, { s with pending := some command }) := by
  have visible : command.trim ≠ "" := unfinished.visible
  simp only [submitCommand, if_neg visible, unfinished.parse_none]

theorem submit_idle (idle : s.pending = none) {line : Text}
    (plain : line.trim.head? ≠ some (.char '\\')) :
    s.submit catalog line = submitCommand catalog line { s with cursor := none } := by
  unfold submit
  dsimp only
  rw [if_neg plain]
  simp only [commandOf, idle]

theorem submit_waiting {text line : Text} (waiting : s.pending = some text)
    (plain : line.trim.head? ≠ some (.char '\\')) :
    s.submit catalog line =
      submitCommand catalog (if line.trim = ";" then text ++ ";" else text ++ "\n" ++ line)
        { s with cursor := none } := by
  unfold submit
  dsimp only
  rw [if_neg plain]
  simp only [commandOf, waiting]

theorem submit_semicolon {text : Text} (waiting : s.pending = some text) :
    s.submit catalog ";" = submitCommand catalog (text ++ ";") { s with cursor := none } := by
  rw [submit_waiting waiting (by decide), if_pos (by decide)]

theorem submit_semicolon_answers {text : Text} (waiting : s.pending = some text)
    (unfinished : Statement.IsUnfinished text)
    (readable : ∀ what, Statement.parse (text ++ ";") ≠ .error what) :
    ∃ out, (s.submit catalog ";").1 = .ok (some out) ∧
      (s.submit catalog ";").2.pending = none := by
  rw [submit_semicolon waiting]
  match read : Statement.parse (text ++ ";") with
  | .ok none => exact absurd read (unfinished.parse_append_ne_none rfl)
  | .ok (some statement) => exact submitCommand_answers read
  | .error what => exact absurd read (readable what)

/-! ### Steps and runs -/

theorem previous_consistent (consistent : s.IsConsistent catalog) :
    s.previous.2.IsConsistent catalog := by
  unfold previous
  dsimp only
  split
  · rename_i command found
    refine ⟨?_, consistent.database, consistent.pending⟩
    intro place looked
    obtain rfl := Option.some.inj looked
    exact (List.getElem?_eq_some_iff.mp found).1
  · exact consistent

theorem next_consistent (consistent : s.IsConsistent catalog) :
    s.next.2.IsConsistent catalog := by
  unfold next
  split
  · exact consistent
  · exact ⟨by simp, consistent.database, consistent.pending⟩
  · rename_i place looked
    refine ⟨?_, consistent.database, consistent.pending⟩
    intro other moved
    obtain rfl := Option.some.inj moved
    have := consistent.cursor _ looked
    dsimp only
    omega

theorem step_consistent (consistent : s.IsConsistent catalog) (action : Action) :
    (s.step catalog action).2.IsConsistent catalog := by
  cases action with
  | submit line => exact submit_consistent consistent line
  | execute statement => exact execute_consistent consistent statement
  | cancel => exact execute_consistent consistent ⟨"", .cancel⟩
  | complete text => exact consistent
  | previous => exact previous_consistent consistent
  | next => exact next_consistent consistent
  | close => exact fresh_consistent
  | clearExited => exact ⟨consistent.cursor, consistent.database, consistent.pending⟩

theorem run_states_consistent (consistent : s.IsConsistent catalog) (actions : List Action) :
    ∀ result ∈ run catalog s actions, result.2.IsConsistent catalog := by
  induction actions generalizing s with
  | nil => simp [run]
  | cons action rest ih =>
    have stepped := step_consistent consistent action
    intro result member
    rcases List.mem_cons.mp member with rfl | member
    · exact stepped
    · exact ih stepped result member

theorem consistent_of_reached {actions : List Action}
    (reached : s ∈ {} :: (run catalog {} actions).map Prod.snd) : s.IsConsistent catalog := by
  rcases List.mem_cons.mp reached with rfl | later
  · exact fresh_consistent
  · obtain ⟨result, present, rfl⟩ := List.mem_map.mp later
    exact run_states_consistent fresh_consistent actions result present

open Statement (withoutSemicolon)

open Query (overlongQuery)

end Session

end SqlConsole
