import SqlConsole.Number.Numeral
import SqlConsole.Value.Basic

/-!
# Documents

The reader of the interchange format of datasets and requests: JSON, with the names of the numbers
that are not finite. A number with a fraction or an exponent is real, any other an integer, which
must not be too long. Of the entries of an object with one key the last stays, in the place of the
first. How deep lists and objects may be nested depends on what is left of the stack when a document
is read, so it is given to the reader.
-/

namespace SqlConsole.Json

inductive Refusal where
  | malformed
  | tooDeep
  | overlong (what : Overlong)
  deriving DecidableEq, Repr

def isSpace (c : CodePoint) : Bool := c == ' ' || c == '\t' || c == '\n' || c == '\r'

def skipSpace (t : Text) : Text := t.dropWhile isSpace

/-! ### Strings -/

/-- A code point of a string as it is, or a code unit given by its number. -/
inductive Piece where
  | plain (c : CodePoint)
  | unit (n : Nat)

def codeUnit? (a b c d : CodePoint) : Option Nat := do
  let a ← a.hexDigitValue?
  let b ← b.hexDigitValue?
  let c ← c.hexDigitValue?
  let d ← d.hexDigitValue?
  return ((a * 16 + b) * 16 + c) * 16 + d

def escaped? : CodePoint → Option CodePoint
  | .char '"' => some '"'
  | .char '\\' => some '\\'
  | .char '/' => some '/'
  | .char 'b' => some '\x08'
  | .char 'f' => some '\x0c'
  | .char 'n' => some '\n'
  | .char 'r' => some '\r'
  | .char 't' => some '\t'
  | _ => none

/-- The pieces of a string after its opening quote, and what follows its closing one. Controls may
not stand in a string. -/
def pieces? : Text → Option (List Piece × Text)
  | .char '"' :: rest => some ([], rest)
  | .char '\\' :: .char 'u' :: a :: b :: c :: d :: rest => do
    let n ← codeUnit? a b c d
    let (pieces, rest) ← pieces? rest
    return (.unit n :: pieces, rest)
  | .char '\\' :: e :: rest => do
    let c ← escaped? e
    let (pieces, rest) ← pieces? rest
    return (.plain c :: pieces, rest)
  | c :: rest =>
    if c.code < 0x20 ∨ c = '\\' then none
    else do
      let (pieces, rest) ← pieces? rest
      return (.plain c :: pieces, rest)
  | [] => none

/-- The code points of a string. Two code units that form a pair are one character; a unit without
its partner stands for itself. -/
def joinPieces : List Piece → Text
  | [] => []
  | .unit high :: .unit low :: rest =>
    match CodePoint.ofPair? high low with
    | some c => c :: joinPieces rest
    | none => .ofCode high :: joinPieces (.unit low :: rest)
  | .unit n :: rest => .ofCode n :: joinPieces rest
  | .plain c :: rest => c :: joinPieces rest

def string (t : Text) : Except Refusal (Text × Text) :=
  match pieces? t with
  | some (pieces, rest) => .ok (joinPieces pieces, rest)
  | none => .error .malformed

/-! ### Numbers -/

def isDigit (c : CodePoint) : Bool := 0x30 ≤ c.code && c.code ≤ 0x39

/-- The digits of a whole number, which has no needless zero in front, and what follows. -/
def whole? : Text → Option (Text × Text)
  | .char '0' :: rest => some ("0", rest)
  | c :: rest =>
    if isDigit c then some (c :: rest.takeWhile isDigit, rest.dropWhile isDigit) else none
  | [] => none

/-- The digits after a point, if a point with a digit after it stands in front, and what follows. -/
def fraction : Text → Text × Text
  | .char '.' :: c :: rest =>
    if isDigit c then (c :: rest.takeWhile isDigit, rest.dropWhile isDigit)
    else ([], '.' :: c :: rest)
  | t => ([], t)

/-- The exponent in front of a text, if a whole one stands there, and what follows. -/
def exponent? (t : Text) : Option (Int × Text) :=
  match t with
  | e :: rest =>
    if e = 'e' ∨ e = 'E' then
      let (negative, rest) := Numeral.sign rest
      match rest.takeWhile isDigit with
      | [] => none
      | digits =>
        let n := Text.natural digits
        some (if negative then -n else n, rest.dropWhile isDigit)
    else none
  | [] => none

def number (negative : Bool) (t : Text) : Except Refusal (Value × Text) :=
  match whole? t with
  | none => .error .malformed
  | some (whole, rest) =>
    let (part, rest) := fraction rest
    match part, exponent? rest with
    | [], none =>
      match whole.natural? with
      | .ok n => .ok (.integer (if negative then -(n : Int) else n), rest)
      | .error what => .error (.overlong what)
    | part, none =>
      .ok (.real (Numeral.ofDecimal negative (Text.natural (whole ++ part)) (-part.length)), rest)
    | part, some (exponent, rest) =>
      .ok (.real
        (Numeral.ofDecimal negative (Text.natural (whole ++ part)) (exponent - part.length)), rest)

/-! ### Documents -/

def after? (word t : Text) : Option Text :=
  if word.isPrefixOf t then some (t.drop word.length) else none

def names : List (Text × Value) := [
  ("null", .null), ("true", .bool true), ("false", .bool false), ("NaN", .real (.nan 0)),
  ("Infinity", .real (.infinite false)), ("-Infinity", .real (.infinite true))]

def scalar (t : Text) : Except Refusal (Value × Text) :=
  match names.findSome? fun (name, v) => (after? name t).map fun rest => (v, rest) with
  | some found => .ok found
  | none =>
    match t with
    | .char '-' :: rest => number true rest
    | _ => number false t

mutual

/-- The value in front of a text, nested at most `depth` deep, and what follows. -/
def value : (fuel depth : Nat) → Text → Except Refusal (Value × Text)
  | 0, _, _ => .error .malformed
  | fuel + 1, depth, t =>
    match t, depth with
    | .char '"' :: rest, _ => do
      let (s, rest) ← string rest
      return (.text s, rest)
    | .char '[' :: _, 0 => .error .tooDeep
    | .char '[' :: rest, depth + 1 =>
      match skipSpace rest with
      | .char ']' :: rest => .ok (.list [], rest)
      | rest => do
        let (items, rest) ← items fuel depth rest
        return (.list items, rest)
    | .char '\x7b' :: _, 0 => .error .tooDeep
    | .char '\x7b' :: rest, depth + 1 =>
      match skipSpace rest with
      | .char '\x7d' :: rest => .ok (.mapping [], rest)
      | rest => do
        let (entries, rest) ← entries fuel depth rest
        return (.mapping (Keyed.ofList entries), rest)
    | t, _ => scalar t
termination_by structural fuel => fuel

def items : (fuel depth : Nat) → Text → Except Refusal (List Value × Text)
  | 0, _, _ => .error .malformed
  | fuel + 1, depth, t => do
    let (v, rest) ← value fuel depth t
    match skipSpace rest with
    | .char ']' :: rest => return ([v], rest)
    | .char ',' :: rest =>
      let (vs, rest) ← items fuel depth (skipSpace rest)
      return (v :: vs, rest)
    | _ => .error .malformed
termination_by structural fuel => fuel

def entries : (fuel depth : Nat) → Text → Except Refusal (List (Text × Value) × Text)
  | 0, _, _ => .error .malformed
  | fuel + 1, depth, t =>
    match t with
    | .char '"' :: rest => do
      let (key, rest) ← string rest
      match skipSpace rest with
      | .char ':' :: rest =>
        let (v, rest) ← value fuel depth (skipSpace rest)
        match skipSpace rest with
        | .char '\x7d' :: rest => return ([(key, v)], rest)
        | .char ',' :: rest =>
          let (es, rest) ← entries fuel depth (skipSpace rest)
          return ((key, v) :: es, rest)
        | _ => .error .malformed
      | _ => .error .malformed
    | _ => .error .malformed
termination_by structural fuel => fuel

end

/-- The value of a document that is nested at most `depth` deep. Each step of the reader but the
first consumes a code point at least every second time, which bounds the fuel. -/
def read (depth : Nat) (t : Text) : Except Refusal Value := do
  let (v, rest) ← value (2 * t.length + 2) depth (skipSpace t)
  if skipSpace rest = [] then return v else .error .malformed

end SqlConsole.Json
