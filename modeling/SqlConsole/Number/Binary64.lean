/-!
# Binary floating-point numbers of 64 bits

A number is a significand below 2^53 times a power of two, an infinity, or not a number. All
arithmetic is exact rational arithmetic followed by one rounding (`ofRat`): to the nearest number, a
tie to the even significand.
-/

namespace SqlConsole

/-- A floating-point number of 64 bits. `finite negative m e` is m · 2^e with its sign; zero has
both signs. What is not a number equals nothing, so an object of its own tells it from others. -/
inductive Binary64 where
  | nan (object : Nat)
  | infinite (negative : Bool)
  | finite (negative : Bool) (significand : Nat) (exponent : Int)
  deriving DecidableEq, Repr

namespace Binary64

def minExponent : Int := -1074

def maxExponent : Int := 971

def significandBound : Nat := 9007199254740992

def powerOfTwo (e : Int) : Rat :=
  if 0 ≤ e then (Nat.pow 2 e.toNat : Rat) else 1 / (Nat.pow 2 (-e).toNat : Rat)

def powerOfTen (e : Int) : Rat :=
  if 0 ≤ e then (Nat.pow 10 e.toNat : Rat) else 1 / (Nat.pow 10 (-e).toNat : Rat)

/-- A number without its sign, as a rational; zero if it is not finite. -/
def magnitude : Binary64 → Rat
  | finite _ m e => (m : Rat) * powerOfTwo e
  | _ => 0

def toRat? : Binary64 → Option Rat
  | x@(finite negative _ _) => some (if negative then -x.magnitude else x.magnitude)
  | _ => none

/-- The nearest natural number to a rational that is not negative, a tie to the even one. -/
def roundHalfEven (q : Rat) : Nat :=
  let below := q.floor.toNat
  let rest := q - (below : Rat)
  if rest < 1 / 2 then below
  else if 1 / 2 < rest then below + 1
  else if below % 2 = 0 then below else below + 1

def binaryOrder (q : Rat) : Int :=
  let order : Int := (q.num.toNat.log2 : Int) - q.den.log2
  if powerOfTwo order ≤ q then order else order - 1

/-- The nearest number to a rational that is not negative, with the given sign; infinity if the
rational is too large. -/
def ofMagnitude (negative : Bool) (q : Rat) : Binary64 :=
  if q = 0 then finite negative 0 minExponent
  else
    let exponent := max (binaryOrder q - 52) minExponent
    let significand := roundHalfEven (q / powerOfTwo exponent)
    let (significand, exponent) :=
      if significand = significandBound then (significand / 2, exponent + 1)
      else (significand, exponent)
    if maxExponent < exponent then infinite negative else finite negative significand exponent

/-- The nearest number to a rational. -/
def ofRat (q : Rat) : Binary64 := if q < 0 then ofMagnitude true (-q) else ofMagnitude false q

/-- The nearest number to an integer. -/
def ofInt (n : Int) : Binary64 := ofRat n

def neg : Binary64 → Binary64
  | nan object => nan object
  | infinite negative => infinite !negative
  | finite negative m e => finite (!negative) m e

def isIntegral (x : Binary64) : Bool := x.toRat?.any fun q => q.den == 1

/-- The integer part of a number, toward zero; zero if the number is not finite. -/
def truncate (x : Binary64) : Int :=
  match x.toRat? with
  | some q => q.num.tdiv q.den
  | none => 0

end Binary64

end SqlConsole
