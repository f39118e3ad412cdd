import SqlConsole.Number.Binary64

/-!
# The order of numbers

Integers and floating-point numbers are compared exactly, as the rationals that they are, with the
infinities at the ends.
-/

namespace SqlConsole

/-- A number of either kind. -/
inductive Number where
  | integer (n : Int)
  | real (x : Binary64)
  deriving DecidableEq, Repr

/-- A place on the line of the rationals with its two ends, and one place after it for what is not a
number. -/
inductive Place where
  | start
  | point (q : Rat)
  | stop
  | nowhere
  deriving DecidableEq

def Place.le : Place → Place → Bool
  | _, nowhere => true
  | nowhere, _ => false
  | start, _ => true
  | _, stop => true
  | .point p, .point q => decide (p ≤ q)
  | _, _ => false

namespace Number

def place : Number → Place
  | integer n => .point n
  | real (.finite negative m e) =>
    .point (if negative then -(Binary64.finite negative m e).magnitude
      else (Binary64.finite negative m e).magnitude)
  | real (.infinite negative) => if negative then .start else .stop
  | real (.nan _) => .nowhere

def isNumber (a : Number) : Bool := a.place != .nowhere

def le (a b : Number) : Bool := a.place.le b.place

/-- How two numbers compare; what is not a number compares with nothing. -/
def compare? (a b : Number) : Option Ordering :=
  if !a.isNumber || !b.isNumber then none
  else if a.place = b.place then some .eq
  else if a.le b then some .lt
  else some .gt

def same (a b : Number) : Bool := a.compare? b == some .eq

end Number

end SqlConsole
