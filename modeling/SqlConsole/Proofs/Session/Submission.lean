import SqlConsole.Proofs.Session.Consistency
import SqlConsole.Proofs.Statement.Selection

/-!
# Submitted lines

A line that is a statement is executed as this statement, with its command in front of the history
and nothing pending (`submit_eq_execute`). A line that is none has no answer, and changes nothing
but what is pending (`submit_eq_none`); one that cannot be read changes not even that
(`submit_eq_error`).
-/

namespace SqlConsole.Session

variable {s : Session}

def lineCommand (line : Text) (s : Session) : Text :=
  if line.trim.head? = some (.char '\\') then line.trim else s.commandOf line

def executed? (s : Session) : Action → Option Statement
  | .submit line => (Statement.parse (s.lineCommand line)).toOption.join
  | .execute statement => some statement
  | .cancel => some ⟨"", .cancel⟩
  | _ => none

theorem parse_of_executed {line : Text} {statement : Statement}
    (read : s.executed? (.submit line) = some statement) :
    Statement.parse (s.lineCommand line) = .ok (some statement) := by
  simp only [executed?] at read
  match parsed : Statement.parse (s.lineCommand line) with
  | .ok request =>
    rw [parsed] at read
    exact congrArg _ read
  | .error what =>
    rw [parsed] at read
    cases read

/-! ### Lines that are statements -/

def readyFor (command : Text) (s : Session) : Session :=
  ({ s with cursor := none, pending := none } : Session).remember command

theorem submit_eq_execute {line : Text} {statement : Statement}
    (read : Statement.parse (s.lineCommand line) = .ok (some statement)) (catalog : Catalog) :
    s.submit catalog line =
      (.ok (some ((s.readyFor statement.command).execute catalog statement).1),
        ((s.readyFor statement.command).execute catalog statement).2) := by
  obtain ⟨command, -⟩ := Statement.parse_eq_some_iff.mp read
  rw [command]
  unfold lineCommand at read ⊢
  unfold submit
  split at read
  · rename_i backslash
    simp only [if_pos backslash, submitMeta, read, Text.trim_eq_self line.trim_isTrimmed, readyFor]
  · rename_i plain
    simp only [if_neg plain]
    exact submitCommand_of_parse (s := { s with cursor := none }) read

theorem submit_of_parse {line : Text} {statement : Statement}
    (read : Statement.parse (s.lineCommand line) = .ok (some statement)) :
    ∃ ready : Session, ready.database = s.database ∧ ready.exited = s.exited ∧
      ready.pending = none ∧ ∀ catalog, s.submit catalog line =
        (.ok (some (ready.execute catalog statement).1), (ready.execute catalog statement).2) :=
  ⟨s.readyFor statement.command, rfl, rfl, rfl, submit_eq_execute read⟩

/-! ### Lines that are none -/

def pendingAfter (line : Text) (s : Session) : Option Text :=
  if line.trim.head? = some (.char '\\') then none
  else if (s.commandOf line).trim = "" then s.pending
  else some (s.commandOf line)

theorem submit_eq_none {line : Text} (read : Statement.parse (s.lineCommand line) = .ok none)
    (catalog : Catalog) :
    s.submit catalog line =
      (.ok none, { s with cursor := none, pending := s.pendingAfter line }) := by
  unfold lineCommand at read
  unfold submit pendingAfter
  split at read
  · rename_i backslash
    simp only [if_pos backslash, submitMeta, read]
  · rename_i plain
    simp only [if_neg plain, submitCommand]
    rw [show commandOf line { s with cursor := none } = s.commandOf line from rfl, read]
    split <;> rfl

theorem submit_eq_error {line : Text} {what : Overlong}
    (fails : Statement.parse (s.lineCommand line) = .error what) (catalog : Catalog) :
    s.submit catalog line = (.error what, { s with cursor := none }) := by
  obtain ⟨-, -, plain, -⟩ := Statement.exists_of_parse_error fails
  unfold lineCommand at fails plain
  unfold submit
  split at plain
  · rename_i backslash
    rw [Text.trim_eq_self line.trim_isTrimmed] at plain
    exact absurd backslash plain
  · rename_i visible
    rw [if_neg visible] at fails
    simp only [if_neg visible]
    exact submitCommand_of_parse_error (s := { s with cursor := none }) fails

theorem submit_fst_eq_none_iff {catalog : Catalog} {line : Text} :
    (s.submit catalog line).1 = .ok none ↔ Statement.parse (s.lineCommand line) = .ok none := by
  match read : Statement.parse (s.lineCommand line) with
  | .ok none => simp [submit_eq_none read]
  | .ok (some statement) => simp [submit_eq_execute read]
  | .error what => simp [submit_eq_error read]

theorem submit_fst_eq_error_iff {catalog : Catalog} {line : Text} {what : Overlong} :
    (s.submit catalog line).1 = .error what ↔
      Statement.parse (s.lineCommand line) = .error what := by
  match read : Statement.parse (s.lineCommand line) with
  | .ok none => simp [submit_eq_none read]
  | .ok (some statement) => simp [submit_eq_execute read]
  | .error other => simp [submit_eq_error read]

theorem history_of_no_answer {catalog : Catalog} {line : Text}
    (unanswered : ∀ out, (s.submit catalog line).1 ≠ .ok (some out)) :
    (s.submit catalog line).2.history = s.history := by
  match read : Statement.parse (s.lineCommand line) with
  | .ok none => rw [submit_eq_none read]
  | .ok (some statement) => exact absurd (by rw [submit_eq_execute read]) (unanswered _)
  | .error what => rw [submit_eq_error read]

theorem submit_of_executed_none {line : Text} (absent : s.executed? (.submit line) = none) :
    ∃ (out : Except Overlong (Option Text)) (waiting : Session),
      waiting.database = s.database ∧ waiting.exited = s.exited ∧
        ∀ catalog, s.submit catalog line = (out, waiting) := by
  match read : Statement.parse (s.lineCommand line) with
  | .ok none =>
    exact ⟨_, { s with cursor := none, pending := _ }, rfl, rfl, submit_eq_none read⟩
  | .ok (some statement) =>
    rw [executed?, read] at absent
    cases absent
  | .error what => exact ⟨_, { s with cursor := none }, rfl, rfl, submit_eq_error read⟩

/-! ### Actions -/

theorem step_of_executed {action : Action} {statement : Statement}
    (read : s.executed? action = some statement) :
    ∃ ready : Session, ready.database = s.database ∧ ∀ catalog, s.step catalog action =
      (.text (some (ready.execute catalog statement).1), (ready.execute catalog statement).2) := by
  cases action with
  | submit line =>
    obtain ⟨ready, same, -, -, answered⟩ := submit_of_parse (parse_of_executed read)
    exact ⟨ready, same, fun catalog => by simp only [step, answered, Reply.ofSubmit]⟩
  | execute statement =>
    cases read
    exact ⟨s, rfl, fun catalog => rfl⟩
  | cancel =>
    cases read
    exact ⟨s, rfl, fun catalog => rfl⟩
  | _ => cases read

theorem previous_keeps (s : Session) :
    s.previous.2.database = s.database ∧ s.previous.2.history = s.history := by
  unfold previous
  dsimp only
  split <;> exact ⟨rfl, rfl⟩

theorem next_keeps (s : Session) :
    s.next.2.database = s.database ∧ s.next.2.history = s.history := by
  unfold next
  split <;> exact ⟨rfl, rfl⟩

end SqlConsole.Session
