import SqlConsole.Shell.Console

/-!
# The loop of the shell

The shell prints its prompt, takes a line and goes on until it is left. The end of the input counts
as a line of its own.
-/

namespace SqlConsole.Shell

inductive Input where
  | line (text : Text)
  | interrupt
  deriving DecidableEq

def endOfInput : Text := "EOF"

/-- What is printed before the first prompt unless another text is given. -/
def banner : Text :=
  "\n    ╔══════════════════════════════════════╗\n" ++
  "    ║      CareerSQL Console               ║\n" ++
  "    ║      Type 'sql' to open the console  ║\n" ++
  "    ║      Type 'ls' to list files         ║\n" ++
  "    ╚══════════════════════════════════════╝\n" ++
  "\n" ++
  "    Inside the console:\n" ++
  "      \\l, SHOW DATABASES;      list databases\n" ++
  "      \\c db, USE db;           connect\n" ++
  "      \\dt, SHOW TABLES;        list tables\n" ++
  "      \\d t, DESCRIBE t;        describe a table\n" ++
  "      SELECT ... FROM t ...;   query\n" ++
  "      \\q, exit                 back to the shell\n" ++
  "    "

/-- What is printed before the first prompt. -/
def introduction (text : Text) : Text := if text = "" then "" else text ++ "\n"

namespace Console

/-- Runs the shell on the input that is left, up to the line that leaves it or raises. An
interruption in the shell leaves it, and in the console drops the statement that is not complete. -/
def loop (catalog : Catalog) (c : Console) : List Input → Result
  | [] => (c.line catalog endOfInput).after c.prompt
  | .line text :: rest =>
    let r := c.line catalog text
    match r.flow with
    | .goesOn => (loop catalog r.console rest).after (c.prompt ++ r.out)
    | _ => r.after c.prompt
  | .interrupt :: rest =>
    if c.sqlMode then
      let r := c.cancel catalog
      (loop catalog r.console rest).after (c.prompt ++ "\n" ++ r.out)
    else ⟨.leaves, c.prompt ++ "\nExiting...\n", c⟩

end Console

def withoutEnd (line : Text) : Text :=
  (line.reverse.dropWhile fun (c : CodePoint) => c == '\n' || c == '\r').reverse

def scriptLines (script : Text) : List Text := (cutLines script).map withoutEnd
where
  /-- The texts up to each newline, and the text after the last one if there is any. -/
  cutLines : Text → List Text
    | [] => []
    | .char '\n' :: cs => [] :: cutLines cs
    | c :: cs =>
      match cs with
      | [] => [[c]]
      | .char '\n' :: cs => [c] :: cutLines cs
      | d :: cs =>
        match cutLines (d :: cs) with
        | line :: lines => (c :: line) :: lines
        | [] => [[c]]

def runScript (catalog : Catalog) (intro script : Text) : Result :=
  (({} : Console).loop catalog ((scriptLines script).map .line)).after (introduction intro)

def refusalText (e : DatasetError) : Text := "Error loading dataset: " ++ e.message ++ "\n"

/-- Runs the program: what is printed and the exit code, unless something is raised. -/
def runProgram (catalog : Except DatasetError Catalog) (inputs : List Input) :
    Text × Except Overlong Nat :=
  match catalog with
  | .error e => (refusalText e, .ok 1)
  | .ok catalog =>
    let r := ({} : Console).loop catalog inputs
    (introduction banner ++ r.out, match r.flow with
      | .raises what => .error what
      | _ => .ok 0)

end SqlConsole.Shell
