import SqlConsole.Proofs.Session.Isolation
import SqlConsole.Shell.Console

/-!
# Modes of the shell

Whatever a shell is given, its prompt tells whether lines go to the console and to which database,
no statement waits outside the console, and only a command to leave or the end of the input leaves
the shell (`run_modes`).
-/

namespace SqlConsole

namespace Session

variable {catalog : Catalog} {s : Session} {line : Text}

theorem execute_exited {statement : Statement} (running : s.exited = false)
    (left : (s.execute catalog statement).2.exited = true) :
    (s.execute catalog statement).2.pending = none := by
  unfold execute at left ⊢
  rcases answer_state catalog { s with lastCommand := some statement.command }
    statement.request statement.dialect with kept | kept | kept | ⟨name, -, kept⟩
  · rw [kept] at left
    exact absurd (running.symm.trans left) (by decide)
  · rw [kept]
  · rw [kept]
  · rw [kept] at left
    exact absurd (running.symm.trans left) (by decide)

theorem submit_exited (running : s.exited = false)
    (left : (s.submit catalog line).2.exited = true) :
    (s.submit catalog line).2.pending = none := by
  cases read : s.executed? (.submit line) with
  | none =>
    obtain ⟨out, waiting, -, same, unanswered⟩ := submit_of_executed_none read
    rw [unanswered, same, running] at left
    cases left
  | some statement =>
    obtain ⟨ready, -, same, -, answered⟩ := submit_of_parse (parse_of_executed read)
    rw [answered] at left ⊢
    exact execute_exited (same.trans running) left

theorem submit_database (named : s.database ≠ some []) :
    (s.submit catalog line).2.database ≠ some [] := by
  cases read : s.executed? (.submit line) with
  | none =>
    obtain ⟨out, waiting, same, -, unanswered⟩ := submit_of_executed_none read
    rwa [unanswered, same]
  | some statement =>
    obtain ⟨ready, same, -, -, answered⟩ := submit_of_parse (parse_of_executed read)
    rw [answered]
    intro chosen
    rcases answer_database catalog _ _ _ [] chosen with before | used
    · exact named (same ▸ before)
    · exact Statement.database_ne_nil (parse_of_executed read) [] used rfl

end Session

namespace Shell

inductive Action where
  | line (text : Text)
  | cancel
  | completeNames (text line : Text) (cursor : Int)
  | completeRest (text line : Text) (cursor : Int)
  | completeFiles (text : Text)
  deriving DecidableEq

inductive Reply where
  | text (flow : Flow) (out : Text)
  | names (out : List Text)
  deriving DecidableEq

theorem Result.stop_iff {r : Result} : r.stop = true ↔ r.flow = .leaves := by
  unfold stop
  exact beq_iff_eq

namespace Console

def reply (result : Result) : Reply × Console := (.text result.flow result.out, result.console)

/-- The reply to an action and the shell after it. A shell that was left still takes lines. -/
def step (catalog : Catalog) (c : Console) : Action → Reply × Console
  | .line text => reply (c.line catalog text)
  | .cancel => reply (c.cancel catalog)
  | .completeNames text line cursor => (.names (c.completeNames catalog text line cursor), c)
  | .completeRest text line cursor => (.names (c.completeRest catalog text line cursor), c)
  | .completeFiles text => (.names (c.completeFiles text), c)

def run (catalog : Catalog) (c : Console) : List Action → List (Reply × Console)
  | [] => []
  | action :: rest =>
    let result := c.step catalog action
    result :: run catalog result.2 rest

/-! ### What leaves the shell -/

/-- Whether a line is a command of the shell that leaves it. -/
def IsLeaving (line : Text) : Prop :=
  ∃ command argument, Line.read line = .known command argument ∧
    (command = .quit ∨ command = .exit ∨ command = .eof)

theorem runTerminal_flow (text : Text) (c : Console) : (c.runTerminal text).flow = .goesOn := by
  unfold runTerminal
  dsimp only
  split
  · rfl
  · split <;> rfl

theorem runCommand_leaves_iff {command : Command} {argument : Text} {c : Console} :
    (c.runCommand command argument).flow = .leaves ↔
      command = .quit ∨ command = .exit ∨ command = .eof := by
  cases command <;> simp [runCommand, leave, endInput, runTerminal_flow]

theorem shellLine_leaves_iff {text : Text} {c : Console} :
    (c.shellLine text).flow = .leaves ↔ IsLeaving text := by
  unfold shellLine IsLeaving
  dsimp only
  cases read : Line.read text with
  | blank => simp
  | known command argument => simp [runCommand_leaves_iff]
  | other line => simp [runTerminal_flow]

theorem sqlLine_leaves_iff {catalog : Catalog} {text : Text} {c : Console} :
    (c.sqlLine catalog text).flow = .leaves ↔ text = "EOF" := by
  unfold sqlLine
  split
  · simpa [endInput]
  · rename_i other
    split
    · simp [other]
    · dsimp only
      split <;> simp [other]

theorem line_leaves_iff {catalog : Catalog} {text : Text} {c : Console} :
    (c.line catalog text).flow = .leaves ↔
      c.sqlMode = false ∧ IsLeaving text ∨ c.sqlMode = true ∧ text = "EOF" := by
  unfold line
  cases c.sqlMode with
  | false => simp [shellLine_leaves_iff]
  | true => simp [sqlLine_leaves_iff]

/-! ### What holds at any time -/

structure IsSettled (c : Console) : Prop where
  prompt : c.prompt = c.currentPrompt
  named : c.session.database ≠ some []
  running : c.session.exited = false
  idle : c.sqlMode = false → c.session.pending = none

variable {catalog : Catalog} {c : Console}

theorem fresh_settled : IsSettled {} where
  prompt := rfl
  named := by simp
  running := rfl
  idle := fun _ => rfl

theorem runTerminal_settled (settled : c.IsSettled) (text : Text) :
    (c.runTerminal text).console.IsSettled := by
  unfold runTerminal
  dsimp only
  split
  -- The console is opened, so nothing is asked of a statement that waits.
  · exact ⟨rfl, settled.named, settled.running, by simp [refresh]⟩
  · split <;> exact settled

theorem runCommand_settled (settled : c.IsSettled) (command : Command) (argument : Text) :
    (c.runCommand command argument).console.IsSettled := by
  cases command with
  | eof | exit | help | quit => exact settled
  | _ => exact runTerminal_settled settled _

theorem shellLine_settled (settled : c.IsSettled) (text : Text) :
    (c.shellLine text).console.IsSettled := by
  have kept : IsSettled
      (if text.trim = "" then c else { c with history := text.trim :: c.history }) := by
    split
    · exact settled
    · exact ⟨settled.prompt, settled.named, settled.running, settled.idle⟩
  unfold shellLine
  dsimp only
  split
  · exact kept
  · exact runCommand_settled kept _ _
  · exact runTerminal_settled kept _

theorem sqlLine_settled (settled : c.IsSettled) (sql : c.sqlMode = true) (text : Text) :
    (c.sqlLine catalog text).console.IsSettled := by
  unfold sqlLine
  split
  · exact ⟨rfl, by simp [refresh, endInput], rfl, fun _ => rfl⟩
  have named : (c.session.submit catalog text).2.database ≠ some [] :=
    Session.submit_database settled.named
  have idle : (c.session.submit catalog text).2.exited = true →
      (c.session.submit catalog text).2.pending = none :=
    Session.submit_exited settled.running
  split
  · rename_i what session raised
    obtain rfl : session = { c.session with cursor := none } := by
      have unread := Session.submit_fst_eq_error_iff.mp (congrArg Prod.fst raised)
      exact (Prod.ext_iff.mp (raised.symm.trans (Session.submit_eq_error unread catalog))).2
    exact ⟨settled.prompt, settled.named, settled.running, settled.idle⟩
  · rename_i out session answered
    rw [answered] at named idle
    dsimp only
    split
    · rename_i left
      -- The shell takes over, which is why nothing may wait any more.
      exact ⟨rfl, named, rfl, fun _ => idle left⟩
    · rename_i stays
      exact ⟨rfl, named, Bool.eq_false_of_not_eq_true stays, fun closed =>
        absurd (sql.symm.trans closed) (by decide)⟩

theorem line_settled (settled : c.IsSettled) (text : Text) :
    (c.line catalog text).console.IsSettled := by
  unfold line
  split
  · rename_i sql
    exact sqlLine_settled settled sql text
  · exact shellLine_settled settled text

theorem step_settled (settled : c.IsSettled) (action : Action) :
    (c.step catalog action).2.IsSettled := by
  cases action with
  | line text => exact line_settled settled text
  | cancel => exact ⟨rfl, settled.named, settled.running, fun _ => rfl⟩
  | _ => exact settled

theorem run_settled (settled : c.IsSettled) (actions : List Action) :
    ∀ result ∈ run catalog c actions, result.2.IsSettled := by
  induction actions generalizing c with
  | nil => simp [run]
  | cons action rest ih =>
    have stepped : (c.step catalog action).2.IsSettled := step_settled settled action
    intro result member
    rcases List.mem_cons.mp member with rfl | later
    · exact stepped
    · exact ih stepped result later

theorem currentPrompt_of_sqlMode (named : c.session.database ≠ some [])
    (sql : c.sqlMode = true) : c.currentPrompt = match c.session.database with
      | some database => database ++ "-> "
      | none => sqlPrompt := by
  have selected : c.session.selected? = c.session.database := by
    unfold Session.selected?
    cases current : c.session.database with
    | none => rfl
    | some database =>
      have chosen : database ≠ Text.ofString "" := fun empty => named (current.trans (empty ▸ rfl))
      exact Option.filter_eq_some_iff.mpr ⟨rfl, bne_iff_ne.mpr chosen⟩
  unfold currentPrompt
  rw [sql, selected]
  rfl

theorem currentPrompt_eq_shellPrompt_iff : c.currentPrompt = shellPrompt ↔ c.sqlMode = false := by
  have console : ∀ database : Text, database ++ "-> " ≠ shellPrompt := by
    intro database same
    have ending : Text.ofString "-> " <:+ shellPrompt := ⟨database, same⟩
    exact absurd ending (by decide)
  unfold currentPrompt
  cases c.sqlMode with
  | false => simp
  | true =>
    cases c.session.selected? with
    | none => decide
    | some database => simp [console database]

/-- At any time in a run of a new shell, its prompt is that of the shell outside the console and
names the current database inside it, the console has not been left, no statement waits outside it,
and a line leaves the shell only as a command to leave it or, inside the console, as the end of the
input. -/
theorem run_modes (catalog : Catalog) (actions : List Action) :
    ∀ c ∈ {} :: (run catalog {} actions).map Prod.snd,
      (c.prompt = shellPrompt ↔ c.sqlMode = false) ∧
      (c.sqlMode = true → c.prompt = match c.session.database with
        | some database => database ++ "-> "
        | none => "sql-> ") ∧
      c.session.exited = false ∧
      (c.sqlMode = false → c.session.pending = none) ∧
      ∀ text, (c.line catalog text).stop = true ↔
        c.sqlMode = false ∧ IsLeaving text ∨ c.sqlMode = true ∧ text = "EOF" := by
  intro c member
  have settled : c.IsSettled := by
    rcases List.mem_cons.mp member with rfl | later
    · exact fresh_settled
    · obtain ⟨result, present, rfl⟩ := List.mem_map.mp later
      exact run_settled fresh_settled actions result present
  refine ⟨?_, fun sql => ?_, settled.running, settled.idle,
    fun text => Result.stop_iff.trans line_leaves_iff⟩
  · rw [settled.prompt]
    exact currentPrompt_eq_shellPrompt_iff
  · rw [settled.prompt]
    exact currentPrompt_of_sqlMode settled.named sql

/-- A console with a statement that waits is left at the end of the input only. -/
theorem run_modes_waiting :
    ∃ c : Console, c.session.pending = some "select *" ∧ c.sqlMode = true ∧ c.prompt = "log-> " ∧
      c.session.exited = false ∧
      ∀ text, (c.line ⟨[⟨"log", []⟩]⟩ text).stop = true ↔ text = "EOF" := by
  have reached : ∃ c ∈ {} :: (run ⟨[⟨"log", []⟩]⟩ {} [.line "SQL", .line "\\c log",
      .completeNames "se" "se" 2, .line "select *"]).map Prod.snd,
      c.session.pending = some "select *" ∧ c.sqlMode = true ∧
        c.session.database = some "log" := by
    decide +kernel
  obtain ⟨c, member, waiting, sql, database⟩ := reached
  obtain ⟨-, prompt, running, -, stops⟩ := run_modes _ _ c member
  refine ⟨c, waiting, sql, ?_, running, fun text => ?_⟩
  · rw [prompt sql, database]
    rfl
  · simp [stops, sql]

end Console

end Shell

end SqlConsole
