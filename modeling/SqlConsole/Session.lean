import SqlConsole.Layout.Listing
import SqlConsole.Selection.Execution
import SqlConsole.Statement.Parse
import SqlConsole.Suggestion.Candidates

/-!
# Sessions

One connection to the console: the current database, the commands so far and the lines of a
statement that is not complete yet. A session is run by actions (`Session.run`).
-/

namespace SqlConsole

structure Session where
  database : Option Text := none
  lastCommand : Option Text := none
  /-- The commands that were submitted, the latest first. -/
  history : List Text := []
  cursor : Option Nat := none
  /-- The lines of a statement that is not complete yet. -/
  pending : Option Text := none
  exited : Bool := false
  deriving DecidableEq

namespace Session

def noDatabase : Text := "Error: No database selected"

def selected? (s : Session) : Option Text := s.database.filter (· != "")

/-! ### Answering statements -/

def useDatabase (catalog : Catalog) (database : Text) (dialect : Dialect) (s : Session) :
    Text × Session :=
  if catalog.hasDatabase database then
    (Layout.connection database dialect, { s with database := some database })
  else ("Error: Database \"" ++ database ++ "\" does not exist", s)

def describe (catalog : Catalog) (table : Text) (dialect : Dialect) (s : Session) : Text :=
  match s.selected? with
  | none => noDatabase
  | some database =>
    match catalog.table? database table with
    | none => "Error: Table \"" ++ table ++ "\" not found"
    | some table => Layout.description table database dialect

def select (catalog : Catalog) (selection : Selection) (s : Session) : Text :=
  match s.selected? with
  | none => noDatabase
  | some database =>
    match catalog.run selection (some database) with
    | .ok answer => Layout.result answer.columns answer.rows
    | .error e => "Error: " ++ e.message

def answer (catalog : Catalog) (request : Request) (dialect : Dialect) (s : Session) :
    Text × Session :=
  match request with
  | .cancel => ("^C", { s with pending := none })
  | .refused message token => (Layout.errorReport message 1 token dialect, s)
  | .showDatabases => (Layout.databaseList catalog.databaseNames dialect, s)
  | .showTables =>
    match s.selected? with
    | none => (noDatabase, s)
    | some database => (Layout.tableList (catalog.tableNames database) database dialect, s)
  | .useDatabase database => s.useDatabase catalog database dialect
  | .describeTable table => (s.describe catalog table dialect, s)
  | .select selection => (s.select catalog selection, s)
  | .write operation =>
    ("Error: " ++ operation.name ++ " operation is not allowed in read-only mode", s)
  | .exit => ("Bye", { s with exited := true, pending := none })
  | .nothing => ("Error: Unknown query type: " ++ request.kind, s)

def execute (catalog : Catalog) (statement : Statement) (s : Session) : Text × Session :=
  answer catalog statement.request statement.dialect
    { s with lastCommand := some statement.command }

/-! ### Lines of input -/

def remember (command : Text) (s : Session) : Session :=
  { s with history := command :: s.history }

/-- The command that a line completes or goes on with. -/
def commandOf (line : Text) (s : Session) : Text :=
  match s.pending with
  | none => line
  | some pending => if line.trim = ";" then pending ++ ";" else pending ++ "\n" ++ line

/-- The answer to a command with a backslash. Such a command drops the statement that is not
complete. -/
def submitMeta (catalog : Catalog) (command : Text) (s : Session) :
    Except Overlong (Option Text) × Session :=
  let s := { s with pending := none }
  match Statement.parse command with
  | .error what => (.error what, s)
  | .ok none => (.ok none, s)
  | .ok (some statement) =>
    let (out, s) := execute catalog statement (s.remember command)
    (.ok (some out), s)

/-- The answer to a command that may be the start of a statement. Where a number is too long, the
lines of the statement are not dropped. -/
def submitCommand (catalog : Catalog) (command : Text) (s : Session) :
    Except Overlong (Option Text) × Session :=
  if command.trim = "" then (.ok none, s)
  else
    match Statement.parse command with
    | .error what => (.error what, s)
    | .ok none => (.ok none, { s with pending := some command })
    | .ok (some statement) =>
      let (out, s) :=
        execute catalog statement (({ s with pending := none } : Session).remember command.trim)
      (.ok (some out), s)

/-- The answer to a line of input. There is none to a line that completes no statement and to a
command with a backslash that does not exist. -/
def submit (catalog : Catalog) (line : Text) (s : Session) :
    Except Overlong (Option Text) × Session :=
  let s := { s with cursor := none }
  let command := line.trim
  if command.head? = some (.char '\\') then s.submitMeta catalog command
  else s.submitCommand catalog (s.commandOf line)

def cancel (catalog : Catalog) (s : Session) : Text × Session :=
  execute catalog ⟨"", .cancel⟩ s

def complete (catalog : Catalog) (text : Text) (s : Session) : List Text :=
  Suggestion.complete catalog text s.database

/-! ### History -/

def previous (s : Session) : Option Text × Session :=
  let next := (s.cursor.map (· + 1)).getD 0
  match s.history[next]? with
  | some command => (some command, { s with cursor := some next })
  | none => (none, s)

def next (s : Session) : Option Text × Session :=
  match s.cursor with
  | none => (none, s)
  | some 0 => (some "", { s with cursor := none })
  | some (n + 1) => (s.history[n]?, { s with cursor := some n })

/-! ### Runs -/

inductive Action where
  | submit (line : Text)
  | execute (statement : Statement)
  | cancel
  | complete (text : Text)
  | previous
  | next
  | close
  | clearExited
  deriving DecidableEq

inductive Reply where
  | text (out : Option Text)
  | names (out : List Text)
  | done
  /-- A number is too long to be read. -/
  | raised (what : Overlong)
  deriving DecidableEq

def Reply.ofSubmit : Except Overlong (Option Text) → Reply
  | .ok out => .text out
  | .error what => .raised what

def step (catalog : Catalog) (s : Session) : Action → Reply × Session
  | .submit line =>
    let (out, s) := s.submit catalog line
    (.ofSubmit out, s)
  | .execute statement =>
    let (out, s) := s.execute catalog statement
    (.text (some out), s)
  | .cancel =>
    let (out, s) := s.cancel catalog
    (.text (some out), s)
  | .complete text => (.names (s.complete catalog text), s)
  | .previous =>
    let (out, s) := s.previous
    (.text out, s)
  | .next =>
    let (out, s) := s.next
    (.text out, s)
  | .close => (.text none, {})
  | .clearExited => (.done, { s with exited := false })

def run (catalog : Catalog) (s : Session) : List Action → List (Reply × Session)
  | [] => []
  | action :: rest =>
    let result := s.step catalog action
    result :: run catalog result.2 rest

end Session

end SqlConsole
