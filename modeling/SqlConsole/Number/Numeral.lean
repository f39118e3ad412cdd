import SqlConsole.Number.Binary64
import SqlConsole.Text.Blank
import SqlConsole.Text.Digit

/-!
# Reading floating-point numerals

A numeral has a sign or none, digits with or without a point, and an exponent or none. The digits
may be of any script, and one underscore may stand between two digits. The names of infinity and of
what is not a number are numerals too. The value is the number nearest to the one written.
-/

namespace SqlConsole.Numeral

/-- A decimal written out, rounded. Magnitudes far outside the range of the numbers are decided by
the place of their point. -/
def ofDecimal (negative : Bool) (digits : Nat) (exponent : Int) : Binary64 :=
  if digits = 0 then .finite negative 0 Binary64.minExponent
  else
    let point : Int := (Text.decimal digits).length + exponent
    if 400 < point then .infinite negative
    else if point < -400 then .finite negative 0 Binary64.minExponent
    else Binary64.ofMagnitude negative ((digits : Rat) * Binary64.powerOfTen exponent)

/-- The digits at the front of a text, single underscores between them left out, and what
follows. -/
def digitRun : Text → Text × Text
  | [] => ([], [])
  | c :: cs =>
    if c.isDigit then
      let (digits, rest) :=
        match cs with
        | [] => ([], [])
        | d :: ds =>
          if d = '_' ∧ ds.head?.any CodePoint.isDigit then digitRun ds else digitRun (d :: ds)
      (c :: digits, rest)
    else ([], c :: cs)

def sign : Text → Bool × Text
  | .char '-' :: cs => (true, cs)
  | .char '+' :: cs => (false, cs)
  | cs => (false, cs)

def exponent? : Text → Option Int
  | [] => some 0
  | c :: cs =>
    if c = 'e' ∨ c = 'E' then
      let (negative, cs) := sign cs
      match digitRun cs with
      | ([], _) => none
      | (digits, []) => some (if negative then -Text.natural digits else Text.natural digits)
      | _ => none
    else none

def fraction : Text → Text × Text
  | .char '.' :: cs => digitRun cs
  | cs => ([], cs)

def smallLetter : CodePoint → CodePoint
  | .char c => .char c.toLower
  | c => c

def magnitude? (negative : Bool) (t : Text) : Option Binary64 :=
  let name : Text := t.map smallLetter
  if name = "inf" ∨ name = "infinity" then some (.infinite negative)
  else if name = "nan" then some (.nan 0)
  else
    let (whole, rest) := digitRun t
    let (part, rest) := fraction rest
    if whole = [] ∧ part = [] then none
    else
      (exponent? rest).map fun exponent =>
        ofDecimal negative (Text.natural (whole ++ part)) (exponent - part.length)

/-- The blanks that may stand around a numeral: all but the four separators of files, groups,
records and units. -/
def isMargin (c : CodePoint) : Bool := c.isBlank && !(0x1c ≤ c.code && c.code ≤ 0x1f)

def withoutMargins (t : Text) : Text :=
  ((t.dropWhile isMargin).reverse.dropWhile isMargin).reverse

def read? (t : Text) : Option Binary64 :=
  let (negative, t) := sign (withoutMargins t)
  magnitude? negative t

end SqlConsole.Numeral
