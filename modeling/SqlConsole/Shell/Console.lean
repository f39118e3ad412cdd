import SqlConsole.Session
import SqlConsole.Shell.Terminal

/-!
# The console in its shell

A shell takes lines until it is left; one of its commands opens the console, which takes lines until
it is left in turn. Each line gives what is printed and whether the shell is left.
-/

namespace SqlConsole.Shell

def shellPrompt : Text := "user@localhost:~$ "

def sqlPrompt : Text := "sql-> "

def clearScreen : Text := "\x1b[2J\x1b[H"

structure Console where
  session : Session := {}
  terminal : Terminal := {}
  sqlMode : Bool := false
  prompt : Text := shellPrompt
  /-- The lines that were given to the shell, the latest first. -/
  history : List Text := ["imgcat profile.png"]
  deriving DecidableEq

inductive Flow where
  | goesOn
  | leaves
  /-- A number is too long to be read, which nothing catches. -/
  | raises (what : Overlong)
  deriving DecidableEq

/-- What a line does: how the shell goes on, what is printed, and the shell after it. -/
structure Result where
  flow : Flow
  out : Text
  console : Console
  deriving DecidableEq

namespace Result

def stop (r : Result) : Bool := r.flow == .leaves

def after (before : Text) (r : Result) : Result := { r with out := before ++ r.out }

end Result

/-- A text with a newline behind it, unless it ends in one. -/
def printed (text : Text) : Text :=
  if text.getLast? = some (.char '\n') then text else text ++ "\n"

/-! ### Commands of the shell -/

inductive Command where
  | eof | clear | exit | help | img2sixel | imgcat | ls | quit | sql
  deriving DecidableEq, Repr

namespace Command

def name : Command → Text
  | eof => "EOF"
  | clear => "clear"
  | exit => "exit"
  | help => "help"
  | img2sixel => "img2sixel"
  | imgcat => "imgcat"
  | ls => "ls"
  | quit => "quit"
  | sql => "sql"

def description : Command → Text
  | eof => "Exit on Ctrl-D"
  | clear => "Clear the screen"
  | exit => "Exit the REPL"
  | help => "List available commands with \"help\" or detailed help with \"help cmd\"."
  | img2sixel => "Show an image: img2sixel <file>"
  | imgcat => "Show an image: imgcat <file>"
  | ls => "List files: ls [-a] [-l] [-h]"
  | quit => "Exit the REPL"
  | sql => "Open the SQL console"

def all : List Command := [eof, clear, exit, help, img2sixel, imgcat, ls, quit, sql]

def ofName? (name : Text) : Option Command := all.find? (·.name == name)

/-- What is printed by `help`: all commands, or what is told about one. -/
def helpText (topic : Text) : Text :=
  if topic = "" then
    let rule : Text := List.replicate 40 '='
    "\nDocumented commands (type help <topic>):\n" ++ rule ++ "\n" ++
      List.intercalate "  " (all.map name) ++ "\n\n"
  else
    match ofName? topic with
    | some command => command.description ++ "\n"
    | none => "*** No help on " ++ topic ++ "\n"

end Command

def isCommandChar (c : CodePoint) : Bool := c.isAsciiAlphanum || c == '_'

inductive Line where
  | blank
  | known (command : Command) (argument : Text)
  | other (line : Text)
  deriving DecidableEq

/-- Reads a line: a question mark asks for help, and the name of a command ends at the first
code point that cannot stand in it. -/
def Line.read (line : Text) : Line :=
  match line.trim with
  | [] => .blank
  | c :: cs =>
    let cs := if c = '?' then "help " ++ cs else c :: cs
    match Command.ofName? (cs.takeWhile isCommandChar) with
    | some command =>
      .known command (Text.trim (cs.dropWhile isCommandChar))
    | none => .other cs

namespace Console

def currentPrompt (c : Console) : Text :=
  if !c.sqlMode then shellPrompt
  else
    match c.session.selected? with
    | some database => database ++ "-> "
    | none => sqlPrompt

def refresh (c : Console) : Console := { c with prompt := c.currentPrompt }

def leave (c : Console) : Result := ⟨.leaves, "Goodbye!\n", c⟩

def endInput (c : Console) : Result := ⟨.leaves, "\nGoodbye!\n", c⟩

def runTerminal (line : Text) (c : Console) : Result :=
  let outcome := c.terminal.execute line
  let cleared := if outcome.clear then clearScreen else ""
  if outcome.enterSql then ⟨.goesOn, cleared, refresh { c with sqlMode := true }⟩
  else
    match outcome.image with
    | some image => ⟨.goesOn, cleared ++ printed ("[image] " ++ image), c⟩
    | none =>
      ⟨.goesOn, if outcome.output = "" then cleared else cleared ++ printed outcome.output, c⟩

def runCommand (command : Command) (argument : Text) (c : Console) : Result :=
  match command with
  | .eof => c.endInput
  | .exit | .quit => c.leave
  | .help => ⟨.goesOn, Command.helpText argument, c⟩
  | .clear => c.runTerminal "clear"
  | .sql => c.runTerminal "sql"
  | .ls => c.runTerminal ("ls " ++ argument)
  | .imgcat => c.runTerminal ("imgcat " ++ argument)
  | .img2sixel => c.runTerminal ("img2sixel " ++ argument)

def shellLine (line : Text) (c : Console) : Result :=
  let c :=
    if line.trim = "" then c else { c with history := line.trim :: c.history }
  match Line.read line with
  | .blank => ⟨.goesOn, "", c⟩
  | .known command argument => c.runCommand command argument
  | .other line => c.runTerminal line

/-- Runs a line of the console. The end of the input leaves the console and the shell together. -/
def sqlLine (catalog : Catalog) (line : Text) (c : Console) : Result :=
  if line = "EOF" then (refresh { c with session := {}, sqlMode := false }).endInput
  else
    match c.session.submit catalog line with
    | (.error what, session) => ⟨.raises what, "", { c with session }⟩
    | (.ok out, session) =>
      let out := match out with
        | some text => if text = "" then "" else printed text
        | none => ""
      if session.exited then
        let session := { session with exited := false }
        ⟨.goesOn, out, refresh { c with session, sqlMode := false }⟩
      else ⟨.goesOn, out, refresh { c with session }⟩

def line (catalog : Catalog) (line : Text) (c : Console) : Result :=
  if c.sqlMode then c.sqlLine catalog line else c.shellLine line

def cancel (catalog : Catalog) (c : Console) : Result :=
  let (out, session) := c.session.cancel catalog
  ⟨.goesOn, printed out, refresh { c with session }⟩

/-! ### Completion -/

/-- The first code points of a text, all but the last few if the number is negative. -/
def takeInt (n : Int) (cs : Text) : Text :=
  if 0 ≤ n then cs.take n.toNat else cs.take (cs.length - n.natAbs)

/-- What completes the text before the cursor in the console. Only `text` is replaced by it, so the
part of the current word before `text` is left out. -/
def completeSql (catalog : Catalog) (text line : Text) (cursor : Int) (c : Console) : List Text :=
  let before := takeInt cursor line
  let offset := (Suggestion.currentWord before).length - text.length
  (c.session.complete catalog before).map (·.drop offset)

def completeNames (catalog : Catalog) (text line : Text) (cursor : Int) (c : Console) : List Text :=
  if c.sqlMode then c.completeSql catalog text line cursor
  else (Command.all.map Command.name).filter text.isPrefixOf

def completeRest (catalog : Catalog) (text line : Text) (cursor : Int) (c : Console) : List Text :=
  if c.sqlMode then c.completeSql catalog text line cursor else []

def completeFiles (text : Text) (c : Console) : List Text :=
  c.terminal.files.filter text.isPrefixOf

end Console

end SqlConsole.Shell
