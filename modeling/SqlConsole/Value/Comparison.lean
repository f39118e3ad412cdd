import SqlConsole.Number.Numeral
import SqlConsole.Value.Display
import SqlConsole.Value.Like

/-!
# Comparing a cell with a literal

Two numbers compare by value, and so do a number and text that reads as a numeral when the literal
is the number. All else compares as text by code points. A missing value satisfies no comparison.
-/

namespace SqlConsole

/-- An operator of a condition. Only the parser is sure to give one that exists. -/
inductive Operator where
  | eq
  | ne
  | lt
  | gt
  | le
  | ge
  | like
  | unknown (symbol : Text)
  deriving DecidableEq, Repr

namespace Operator

def symbol : Operator → Text
  | eq => "="
  | ne => "!="
  | lt => "<"
  | gt => ">"
  | le => "<="
  | ge => ">="
  | like => "LIKE"
  | unknown symbol => symbol

def ofSymbol (symbol : Text) : Operator :=
  match [eq, ne, lt, gt, le, ge, like].find? fun op => op.symbol == symbol with
  | some op => op
  | none => unknown symbol

def isKnown : Operator → Bool
  | unknown _ => false
  | _ => true

/-- Whether an operator accepts the outcome of comparing its two sides; `none` means that they do
not compare. No outcome is given to an operator that is not an order. -/
def accepts? : Operator → Option Ordering → Option Bool
  | eq, o => some (o == some .eq)
  | ne, o => some (o != some .eq)
  | lt, o => some (o == some .lt)
  | gt, o => some (o == some .gt)
  | le, o => some (o == some .lt || o == some .eq)
  | ge, o => some (o == some .gt || o == some .eq)
  | like, _ => none
  | unknown _, _ => none

end Operator

inductive ExecutionError where
  | noColumn (row : Nat) (index : Int)
  | unknownOperator (symbol : Text)
  /-- An integer that takes part as text is too long to be written. -/
  | overlong (what : Overlong)
  deriving DecidableEq

def ExecutionError.message : ExecutionError → Text
  | noColumn row index => "Row " ++ Text.decimal row ++ " has no column " ++ Text.integer index
  | unknownOperator symbol => "Unsupported operator: " ++ symbol
  | overlong what => what.message

inductive Sides where
  | numbers (a b : Number)
  | texts (s t : Text)

def Sides.compare? : Sides → Option Ordering
  | numbers a b => a.compare? b
  | texts s t => some (s.compare t)

namespace Value

/-- The number that a value which is none reads as: text as a numeral, a truth value as one or
zero. -/
def readNumber? : Value → Option Number
  | text t => (Numeral.read? t).map .real
  | bool b => some (.real (Binary64.ofInt (if b then 1 else 0)))
  | _ => none

def sides (cell literal : Value) : Sides :=
  match cell.number?, literal.number? with
  | some a, some b => .numbers a b
  | some _, none => .texts cell.display literal.written
  | none, some b =>
    match cell.readNumber? with
    | some a => .numbers a b
    | none => .texts cell.written literal.written
  | none, none => .texts cell.written literal.written

def comparesTexts (cell : Value) (op : Operator) (literal : Value) : Bool :=
  match op, cell.sides literal with
  | .like, _ => true
  | _, .texts _ _ => true
  | _, .numbers _ _ => false

def satisfies (cell : Value) (op : Operator) (literal : Value) : Except ExecutionError Bool :=
  if cell.isNull || literal.isNull then .ok false
  else if cell.comparesTexts op literal && !(cell.isWritable && literal.isWritable) then
    .error (.overlong .integer)
  else
    match op with
    | .like => .ok (Like.matchesText literal.written cell.display)
    | op =>
      match op.accepts? (cell.sides literal).compare? with
      | some b => .ok b
      | none => .error (.unknownOperator op.symbol)

end Value

end SqlConsole
