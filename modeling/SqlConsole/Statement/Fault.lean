import SqlConsole.Token.Basic

/-!
# Faults

Why a text is no statement. A fault may blame a token.
-/

namespace SqlConsole

inductive Expectation where
  | databaseName
  | tableName
  | tableAfterCreate
  | tableAfterDrop
  | select
  deriving DecidableEq

def Expectation.message : Expectation → Text
  | databaseName => "Expected database name"
  | tableName => "Expected table name"
  | tableAfterCreate => "Expected TABLE after CREATE"
  | tableAfterDrop => "Expected TABLE after DROP"
  | select => "Expected SELECT"

/-- The kinds of faults. All but the last one are told where a statement is refused. -/
inductive Fault.Kind where
  | lexical
  | syntactic
  | uncaught
  deriving DecidableEq, Repr

inductive Fault where
  /-- A code point starts no token. -/
  | strayCharacter (line column : Nat) (value : Text)
  | noStatement (found : Token)
  | trailing (found : Token)
  | expected (expectation : Expectation) (found : Token)
  | showTarget
  | joinUnsupported (value : Text)
  | misplaced (value : Text)
  | endOfInput
  /-- A number of a query cannot be read. This is no fault of syntax, and no refusal tells it. -/
  | overlong (what : Overlong)
  deriving DecidableEq

def misplacedMessage (value : Text) : Text := "syntax error at or near \"" ++ value ++ "\""

namespace Fault

def message : Fault → Text
  | strayCharacter line column value =>
    "Unexpected character at " ++ Text.decimal line ++ ":" ++ Text.decimal column ++ ": " ++ value
  | noStatement found => "Unexpected token: " ++ found.report
  | trailing found => "Unexpected token: " ++ found.report
  | expected expectation found => expectation.message ++ ", got " ++ found.report
  | showTarget => "Expected DATABASES, TABLES or COLUMNS after SHOW"
  | joinUnsupported _ => "JOIN is not supported"
  | misplaced value => misplacedMessage value
  | endOfInput => "syntax error at end of input"
  | overlong what => what.message

def token : Fault → Text
  | strayCharacter _ _ value => value
  | noStatement found => found.value
  | joinUnsupported value => value
  | misplaced value => value
  | _ => ""

def kind : Fault → Kind
  | strayCharacter _ _ _ => .lexical
  | overlong _ => .uncaught
  | _ => .syntactic

/-- Whether the text of a fault names the place of a query that is at fault. -/
def namesPlace : Fault → Bool
  | misplaced _ => true
  | endOfInput => true
  | _ => false

/-- The fault of a query at a token: its end is reached too early if the token marks the end. -/
def atToken (t : Token) : Fault := if t.kind = .stop then endOfInput else misplaced t.value

end Fault

end SqlConsole
