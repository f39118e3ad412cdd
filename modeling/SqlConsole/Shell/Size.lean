import SqlConsole.Number.Order
import SqlConsole.Text.Digit

/-!
# Sizes

The size of a file in the largest unit that it fills, rounded to a whole number.
-/

namespace SqlConsole.Shell

/-- The number nearest to the image of a number under a function of rationals; infinities stay. -/
def onRat (f : Rat → Rat) (x : Binary64) : Binary64 :=
  match x.toRat? with
  | some q => Binary64.ofRat (f q)
  | none => x

/-- The floating-point number nearest to a number. -/
def toBinary : Number → Binary64
  | .integer n => Binary64.ofInt n
  | .real x => x

def fillsUnit (x : Binary64) : Bool :=
  (Number.integer 1024).le (.real x) && (Number.real x).isNumber

/-- A size and its unit: divided by 1024 while it fills a unit and there is a larger one. -/
def scale (x : Binary64) (unit : Text) : (larger : List Text) → Binary64 × Text
  | [] => (x, unit)
  | next :: larger =>
    if fillsUnit x then scale (onRat (· / 1024) x) next larger else (x, unit)

/-- A size as it is shown; halves are rounded up. -/
def humanize (size : Number) : Text :=
  let (x, unit) := scale (toBinary size) "B" ["K", "M", "G"]
  Text.integer (onRat (· + 1 / 2) x).truncate ++ unit

end SqlConsole.Shell
