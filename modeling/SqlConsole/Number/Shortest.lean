import SqlConsole.Number.Binary64
import SqlConsole.Text.Digit

/-!
# The shortest digits of a floating-point number

Reading a decimal rounds it, so many decimals read back as one number. `shortest` gives one with the
fewest digits, and of those the nearest to the number. `write` lays the digits out.
-/

namespace SqlConsole

structure Decimal where
  digits : Nat
  exponent : Int
  deriving DecidableEq, Repr

namespace Decimal

def toRat (d : Decimal) : Rat := (d.digits : Rat) * Binary64.powerOfTen d.exponent

def width (n : Nat) : Nat := (Text.decimal n).length

/-- The place of the point, counted from the first digit: the decimal is below 10 to this power. -/
def point (d : Decimal) : Int := width d.digits + d.exponent

end Decimal

namespace Binary64

/-- The decimals that read back as `m · 2^e` lie between these bounds; the bounds do so too exactly
if `m` is even. Below a power of two the numbers lie twice as close. -/
def roundingInterval (m : Nat) (e : Int) : Rat × Rat :=
  let q := (m : Rat) * powerOfTwo e
  let half := powerOfTwo (e - 1)
  let below := if 2 * m = significandBound ∧ minExponent < e then half / 2 else half
  (q - below, q + half)

/-- Whether a rational that is not negative rounds to `m · 2^e`. -/
def roundsTo (m : Nat) (e : Int) (q : Rat) : Bool :=
  let (low, high) := roundingInterval m e
  (low < q && q < high) || (m % 2 == 0 && (q == low || q == high))

/-- The place of the point of a positive rational: it is below 10 to this power, and not below a
tenth of that. -/
def decimalPoint (q : Rat) : Int :=
  let estimate : Int := (Decimal.width q.num.toNat : Int) - Decimal.width q.den
  if powerOfTen estimate ≤ q then estimate + 1 else estimate

/-- The nearest decimal to `m · 2^e` of a given number of digits that rounds to it, if there is one;
of two equally near the one whose last digit is even. -/
def decimalOfWidth? (m : Nat) (e : Int) (width : Nat) : Option Decimal :=
  let q := (m : Rat) * powerOfTwo e
  let exponent := decimalPoint q - width
  let unit := powerOfTen exponent
  let below := (q / unit).floor.toNat
  let lower : Decimal := ⟨below, exponent⟩
  let upper : Decimal := ⟨below + 1, exponent⟩
  match roundsTo m e lower.toRat, roundsTo m e upper.toRat with
  | false, false => none
  | true, false => some lower
  | false, true => some upper
  | true, true =>
    let down := q - lower.toRat
    let up := upper.toRat - q
    if down < up then some lower
    else if up < down then some upper
    else if below % 2 = 0 then some lower else some upper

def stripZeros : Nat → Decimal → Decimal
  | 0, d => d
  | fuel + 1, d =>
    if d.digits ≠ 0 ∧ d.digits % 10 = 0 then stripZeros fuel ⟨d.digits / 10, d.exponent + 1⟩ else d

/-- The decimal with the fewest digits that reads back as `m · 2^e`, and the nearest to it of those.
Seventeen digits always suffice. -/
def shortest (m : Nat) (e : Int) : Decimal :=
  match (List.range 17).findSome? fun i => decimalOfWidth? m e (i + 1) with
  | some d => stripZeros 17 d
  | none => ⟨m, e⟩

/-- How digits are laid out: positionally while the point lies within bounds, otherwise with one
digit before the point and an exponent. -/
structure Layout where
  /-- The first place of the point that is written positionally. -/
  firstPoint : Int
  lastPoint : Int
  exponentWidth : Nat

def zeros (n : Nat) : Text := List.replicate n (.char '0')

/-- Positional digits; a number without a fractional part ends in `.0`. -/
def positional (digits : Text) (point : Int) : Text :=
  if point ≤ 0 then "0." ++ zeros (-point).toNat ++ digits
  else if (digits.length : Int) ≤ point then
    digits ++ zeros (point.toNat - digits.length) ++ ".0"
  else digits.take point.toNat ++ "." ++ digits.drop point.toNat

def exponentText (width : Nat) (exponent : Int) : Text :=
  let digits := Text.decimal exponent.natAbs
  (if exponent < 0 then "e-" else "e+") ++ zeros (width - digits.length) ++ digits

def scientific (width : Nat) (digits : Text) (point : Int) : Text :=
  match digits with
  | [] => []
  | [d] => d :: exponentText width (point - 1)
  | d :: rest => d :: '.' :: rest ++ exponentText width (point - 1)

def layOut (layout : Layout) (d : Decimal) : Text :=
  let digits := Text.decimal d.digits
  if layout.firstPoint ≤ d.point ∧ d.point ≤ layout.lastPoint then positional digits d.point
  else scientific layout.exponentWidth digits d.point

def minus (negative : Bool) : Text := if negative then "-" else ""

def write (layout : Layout) : Binary64 → Text
  | nan _ => "nan"
  | infinite negative => minus negative ++ "inf"
  | finite negative m e =>
    if m = 0 then minus negative ++ "0.0" else minus negative ++ layOut layout (shortest m e)

end Binary64

end SqlConsole
