import SqlConsole.Statement.Query
import SqlConsole.Text.Fold
import SqlConsole.Token.Scan

/-!
# Reading input

A line of input is a command of its own if it starts with a backslash, and otherwise a statement
that a semicolon ends. `parse` gives no statement for input that is not complete yet or that is
passed over, and a refused one for input that is at fault.
-/

namespace SqlConsole.Statement

/-! ### Statements without their semicolon -/

/-- The tokens of a text, or the fault of its first stray code point. -/
def tokens? (source : Text) : Except Fault (List Token) :=
  let tokens := Token.scan source
  match Token.firstStray? tokens with
  | some t => .error (.strayCharacter t.line t.column t.value)
  | none => .ok tokens

def complete? (request : Request) : List Token → Except Fault Request
  | [] => .ok request
  | t :: _ => if t.kind = .stop then .ok request else .error (.trailing t)

def named? (expectation : Expectation) (request : Text → Request) :
    List Token → Except Fault Request
  | [] => .error .endOfInput
  | t :: ts =>
    if t.kind = .identifier then complete? (request t.value) ts
    else .error (.expected expectation t)

def tableWrite? (expectation : Expectation) (operation : WriteOperation) :
    List Token → Except Fault Request
  | [] => .error .endOfInput
  | t :: _ =>
    if t.kind = .keyword .table then .ok (.write operation) else .error (.expected expectation t)

/-- The tokens without a word of those that may stand between the columns of a table and its
name. -/
def skipOf : List Token → List Token
  | [] => []
  | t :: ts => if t.kind = .keyword .from ∨ t.kind = .keyword .in then ts else t :: ts

def show? : List Token → Except Fault Request
  | [] => .error .showTarget
  | t :: ts =>
    match t.kind with
    | .keyword .databases => complete? .showDatabases ts
    | .keyword .tables => complete? .showTables ts
    | .keyword .columns => named? .tableName .describeTable (skipOf ts)
    | _ => .error .showTarget

def request? (source : Text) : List Token → Except Fault Request
  | [] => .error .endOfInput
  | t :: ts =>
    match t.kind with
    | .keyword .select => .select <$> Query.ofTokens? source ts
    | .keyword .show => show? ts
    | .keyword .use => named? .databaseName .useDatabase ts
    | .keyword .describe => named? .tableName .describeTable ts
    | .keyword .desc => named? .tableName .describeTable ts
    | .keyword .insert => .ok (.write .insert)
    | .keyword .update => .ok (.write .update)
    | .keyword .delete => .ok (.write .delete)
    | .keyword .create => tableWrite? .tableAfterCreate .createTable ts
    | .keyword .drop => tableWrite? .tableAfterDrop .dropTable ts
    | _ => .error (.noStatement t)

def read? (source : Text) : Except Fault Request := do
  request? source (← tokens? source)

def parseRaw (text : Text) : Except Fault Statement := do
  return ⟨text, ← read? text⟩

def withoutSemicolon (t : Text) : Text :=
  if t.getLast? = some (.char ';') then t.dropLast else t

def parseSelect (text : Text) : Except Fault Statement := do
  let source := withoutSemicolon text.trim
  match ← tokens? source with
  | [] => .error .endOfInput
  | t :: ts =>
    if t.kind = .keyword .select then
      return ⟨text.trim, .select (← Query.ofTokens? source ts)⟩
    else .error (.expected .select t)

/-! ### Commands with a backslash -/

/-- The request of a command with a backslash; other commands are passed over. -/
def metaRequest? (command : Text) : Option Request :=
  match (withoutSemicolon command).words with
  | [] => none
  | name :: arguments =>
    if name = "\\l" then some .showDatabases
    else if name = "\\dt" then some .showTables
    else if name = "\\d" then
      match arguments with
      | [] => some .showTables
      | table :: _ => some (.describeTable table)
    else if name = "\\c" then arguments.head?.map .useDatabase
    else if name = "\\q" then some .exit
    else none

/-! ### Input -/

def isExit (t : Text) : Bool :=
  let word : Text := "exit"
  (t.take word.length).length == word.length && (word.zip t).all (fun (a, b) => a.sameLetter b) &&
    (let rest := Text.trimLeft (t.drop word.length)
     rest == [] || rest == [.char ';'])

def leadingWords : List Text := [
  "select", "use", "show", "insert", "update", "delete", "describe", "desc", "create", "drop"]

/-- The first word of a text in lower case. -/
def firstWord (t : Text) : Text := t.lower.words.head?.getD []

def leadingWord (t : Text) : Text := t.lower.leadingName

/-- The request for input with a fault. In a query the token at fault is blamed, otherwise the first
word of the input. -/
def refusal (t : Text) (fault : Fault) : Request :=
  if leadingWord t = "select" then
    .refused (if fault.namesPlace then fault.message else misplacedMessage fault.token) fault.token
  else .refused (misplacedMessage (firstWord t)) (firstWord t)

/-- The request of a text that ends with a semicolon. A fault refuses it, but for a number that is
too long, which is not caught. -/
def parseEnded (t : Text) : Except Overlong Request :=
  match read? t.dropLast with
  | .ok request => .ok request
  | .error (.overlong what) => .error what
  | .error fault => .ok (refusal t fault)

def parseTrimmed (t : Text) : Except Overlong (Option Request) :=
  match t with
  | [] => .ok none
  | .char '\\' :: _ => .ok (metaRequest? t)
  | _ =>
    if isExit t then .ok (some .exit)
    else if t.getLast? = some (.char ';') then some <$> parseEnded t
    else if leadingWords.contains (leadingWord t) then .ok none
    else .ok (some (.refused (misplacedMessage (firstWord t)) (firstWord t)))

/-- The statement of a text of input. There is none if the text is blank or not complete yet, or is
a command with a backslash that is passed over. -/
def parse (text : Text) : Except Overlong (Option Statement) := do
  return (← parseTrimmed text.trim).map fun request => ⟨text.trim, request⟩

end SqlConsole.Statement
