import SqlConsole.Proofs.Session.Submission

/-!
# The history of a session

The history is a log that can be replayed (`run_history`). It holds the commands of the lines that
were answered since the last close, latest first, and each of them is a statement of its own: with
nothing pending it is executed as it was before, and with the same answer if the current database is
the same.
-/

namespace SqlConsole

namespace Statement

variable {text : Text} {statement : Statement}

theorem trim_command (read : parse text = .ok (some statement)) :
    statement.command.trim = statement.command := by
  obtain ⟨command, -⟩ := parse_eq_some_iff.mp read
  rw [command, Text.trim_eq_self text.trim_isTrimmed]

theorem parse_again (read : parse text = .ok (some statement)) :
    parse statement.command = .ok (some statement) := by
  have trimmed := trim_command read
  obtain ⟨command, -⟩ := parse_eq_some_iff.mp read
  rw [parse, trimmed, command]
  exact read

end Statement

namespace Session

structure Answer where
  before : Session
  line : Text
  out : Text
  deriving DecidableEq

/-- The answers since the last close, latest first, after an action that follows the given ones. -/
def record (catalog : Catalog) (s : Session) (log : List Answer) : Action → List Answer
  | .submit line =>
    match (s.submit catalog line).1 with
    | .ok (some out) => ⟨s, line, out⟩ :: log
    | _ => log
  | .close => []
  | _ => log

/-- The answers since the last close, latest first, after a run that follows the given ones. -/
def answers (catalog : Catalog) (s : Session) (log : List Answer) : List Action → List Answer
  | [] => log
  | action :: rest => answers catalog (s.step catalog action).2 (s.record catalog log action) rest

def after (catalog : Catalog) (s : Session) (actions : List Action) : Session :=
  ((run catalog s actions).map Prod.snd).getLast?.getD s

variable {catalog : Catalog} {s u : Session} {line : Text} {statement : Statement}

theorem after_cons (action : Action) (rest : List Action) :
    s.after catalog (action :: rest) = (s.step catalog action).2.after catalog rest := by
  simp [after, run, List.getLast?_cons]

/-! ### What executing a statement does -/

theorem execute_lastCommand (catalog : Catalog) (s : Session) (statement : Statement) :
    (s.execute catalog statement).2.lastCommand = some statement.command := by
  unfold execute
  rcases answer_state catalog { s with lastCommand := some statement.command } statement.request
    statement.dialect with same | same | same | ⟨name, -, same⟩ <;> rw [same]

theorem execute_history (catalog : Catalog) (s : Session) (statement : Statement) :
    (s.execute catalog statement).2.history = s.history := by
  unfold execute
  rcases answer_state catalog { s with lastCommand := some statement.command } statement.request
    statement.dialect with same | same | same | ⟨name, -, same⟩ <;> rw [same]

theorem answer_fst (database : s.database = u.database) (request : Request) (dialect : Dialect) :
    (s.answer catalog request dialect).1 = (u.answer catalog request dialect).1 := by
  have selected : s.selected? = u.selected? := by rw [selected?, selected?, database]
  cases request with
  | useDatabase name =>
    simp only [answer, useDatabase]
    split <;> rfl
  | showTables =>
    simp only [answer, selected]
    split <;> rfl
  | describeTable table => simp only [answer, describe, selected]
  | select selection => simp only [answer, select, selected]
  | _ => rfl

theorem execute_fst (database : s.database = u.database) :
    (s.execute catalog statement).1 = (u.execute catalog statement).1 :=
  answer_fst (s := { s with lastCommand := some statement.command })
    (u := { u with lastCommand := some statement.command }) database _ _

/-! ### Lines that execute a statement -/

structure Executes (catalog : Catalog) (s : Session) (line : Text) (statement : Statement) :
    Prop where
  read : s.executed? (.submit line) = some statement
  answered : s.submit catalog line =
    (.ok (some ((s.readyFor statement.command).execute catalog statement).1),
      ((s.readyFor statement.command).execute catalog statement).2)

theorem executes_of_parse (read : Statement.parse (s.lineCommand line) = .ok (some statement)) :
    Executes catalog s line statement :=
  ⟨by rw [executed?, read]; rfl, submit_eq_execute read catalog⟩

theorem exists_executes {out : Text} (answered : (s.submit catalog line).1 = .ok (some out)) :
    ∃ statement, Executes catalog s line statement := by
  match read : Statement.parse (s.lineCommand line) with
  | .ok none =>
    rw [submit_eq_none read] at answered
    cases answered
  | .ok (some statement) => exact ⟨statement, executes_of_parse read⟩
  | .error what =>
    rw [submit_eq_error read] at answered
    cases answered

namespace Executes

variable (executes : Executes catalog s line statement)

include executes

theorem history : (s.submit catalog line).2.history = statement.command :: s.history := by
  rw [executes.answered, execute_history]
  rfl

theorem lastCommand : (s.submit catalog line).2.lastCommand = some statement.command := by
  rw [executes.answered, execute_lastCommand]

theorem pending : (s.submit catalog line).2.pending = none := by
  rw [executes.answered]
  exact answer_pending _ _ rfl

theorem again (idle : u.pending = none) : Executes catalog u statement.command statement := by
  have read := parse_of_executed executes.read
  have trimmed := Statement.trim_command read
  have same : u.lineCommand statement.command = statement.command := by
    unfold lineCommand commandOf
    rw [idle, trimmed]
    exact ite_self _
  apply executes_of_parse
  rw [same]
  exact Statement.parse_again read

end Executes

/-! ### The log -/

/-- Whether a line was answered as a statement whose command can take the place of the line. -/
structure Replays (catalog : Catalog) (a : Answer) (statement : Statement) : Prop where
  executed : Executes catalog a.before a.line statement
  trimmed : statement.command.trim = statement.command
  read : Statement.parse statement.command = .ok (some statement)
  again : ∀ u : Session, u.pending = none →
    Executes catalog u statement.command statement ∧
      (u.submit catalog statement.command).2.pending = none ∧
      (u.database = a.before.database →
        (u.submit catalog statement.command).1 = .ok (some a.out))

theorem replays_of_executes {out : Text} (executes : Executes catalog s line statement)
    (answered : (s.submit catalog line).1 = .ok (some out)) :
    Replays catalog ⟨s, line, out⟩ statement := by
  have read := parse_of_executed executes.read
  refine ⟨executes, Statement.trim_command read, Statement.parse_again read, fun u idle => ?_⟩
  have again := executes.again idle
  refine ⟨again, again.pending, fun database => ?_⟩
  rw [executes.answered] at answered
  rw [again.answered, ← answered]
  exact congrArg (fun out => Except.ok (some out)) (execute_fst database)

def Logs (catalog : Catalog) (log : List Answer) (s : Session) : Prop :=
  ∃ statements : List Statement,
    s.history = statements.map (·.command) ∧ List.Forall₂ (Replays catalog) log statements

theorem Logs.of_history {log : List Answer} (logs : Logs catalog log s)
    (same : u.history = s.history) : Logs catalog log u := by
  obtain ⟨statements, history, replays⟩ := logs
  exact ⟨statements, same.trans history, replays⟩

theorem submit_logs {log : List Answer} (logs : Logs catalog log s) (line : Text) :
    Logs catalog (s.record catalog log (.submit line)) (s.submit catalog line).2 := by
  simp only [record]
  split
  · rename_i out answered
    obtain ⟨statement, executes⟩ := exists_executes answered
    obtain ⟨statements, history, replays⟩ := logs
    refine ⟨statement :: statements, ?_, .cons (replays_of_executes executes answered) replays⟩
    rw [executes.history, history, List.map_cons]
  · rename_i unanswered
    exact logs.of_history (history_of_no_answer unanswered)

theorem step_logs {log : List Answer} (logs : Logs catalog log s) (action : Action) :
    Logs catalog (s.record catalog log action) (s.step catalog action).2 := by
  cases action with
  | submit line => exact submit_logs logs line
  | execute statement => exact logs.of_history (execute_history catalog s statement)
  | cancel => exact logs.of_history (execute_history catalog s ⟨"", .cancel⟩)
  | complete text => exact logs
  | previous => exact logs.of_history s.previous_keeps.2
  | next => exact logs.of_history s.next_keeps.2
  | close => exact ⟨[], rfl, .nil⟩
  | clearExited => exact logs.of_history rfl

theorem after_logs {log : List Answer} (logs : Logs catalog log s) (actions : List Action) :
    Logs catalog (s.answers catalog log actions) (s.after catalog actions) := by
  induction actions generalizing s log with
  | nil => exact logs
  | cons action rest ih =>
    rw [after_cons]
    exact ih (step_logs logs action)

/-- After a run from a fresh session the history has the commands of the lines that were answered
since the last close, latest first, and each of them can take the place of its line. A further line
that is answered puts the command at the front that is the last one then. -/
theorem run_history (catalog : Catalog) (actions : List Action) :
    (∃ statements : List Statement,
      (after catalog {} actions).history = statements.map (·.command) ∧
        List.Forall₂ (Replays catalog) (answers catalog {} [] actions) statements) ∧
    ∀ line out, ((after catalog {} actions).submit catalog line).1 = .ok (some out) →
      ∃ command, ((after catalog {} actions).submit catalog line).2.lastCommand = some command ∧
        ((after catalog {} actions).submit catalog line).2.history =
          command :: (after catalog {} actions).history := by
  have fresh : Logs catalog [] {} := ⟨[], rfl, .nil⟩
  refine ⟨after_logs fresh actions, fun line out answered => ?_⟩
  obtain ⟨statement, executes⟩ := exists_executes answered
  exact ⟨statement.command, executes.lastCommand, executes.history⟩

/-- A statement over three lines is in the history once, and can be submitted again in one line. -/
theorem run_history_severalLines :
    (∀ u : Session, u.pending = none → u.database = none →
      (u.submit ⟨[]⟩ "show\ntables;").1 = .ok (some noDatabase)) ∧
    ∃ command : Text,
      (submit ⟨[]⟩ "exit"
        (after ⟨[]⟩ {} [.submit "show", .submit "tables", .submit ";"])).2.history =
          [command, Text.ofString "show\ntables;"] := by
  have log : answers ⟨[]⟩ {} [] [.submit "show", .submit "tables", .submit ";"] =
      [⟨{ pending := some "show\ntables" }, ";", noDatabase⟩] := by decide +kernel
  have history : (after ⟨[]⟩ {} [.submit "show", .submit "tables", .submit ";"]).history =
      [Text.ofString "show\ntables;"] := by decide +kernel
  obtain ⟨⟨statements, same, replays⟩, further⟩ :=
    run_history ⟨[]⟩ [.submit "show", .submit "tables", .submit ";"]
  rw [log] at replays
  rw [history] at same further
  obtain ⟨command, -, longer⟩ := further "exit" "Bye" (by decide +kernel)
  refine ⟨fun u idle database => ?_, command, longer⟩
  cases replays with
  | cons replay rest =>
    cases rest
    obtain ⟨-, -, answered⟩ := replay.again u idle
    have whole : Text.ofString "show\ntables;" = _ := List.singleton_inj.mp same
    rw [whole]
    exact answered database

end Session

end SqlConsole
