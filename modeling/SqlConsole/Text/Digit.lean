import SqlConsole.Text.Basic

/-!
# Decimal digits

The decimal digits of all scripts. Each script has its ten digits in a row, from zero to nine.
-/

namespace SqlConsole.Text

def zeros : List Nat := [
  0x30, 0x660, 0x6f0, 0x7c0, 0x966, 0x9e6, 0xa66, 0xae6, 0xb66, 0xbe6, 0xc66, 0xce6, 0xd66, 0xde6,
  0xe50, 0xed0, 0xf20, 0x1040, 0x1090, 0x17e0, 0x1810, 0x1946, 0x19d0, 0x1a80, 0x1a90, 0x1b50,
  0x1bb0, 0x1c40, 0x1c50, 0xa620, 0xa8d0, 0xa900, 0xa9d0, 0xa9f0, 0xaa50, 0xabf0, 0xff10, 0x104a0,
  0x10d30, 0x11066, 0x110f0, 0x11136, 0x111d0, 0x112f0, 0x11450, 0x114d0, 0x11650, 0x116c0,
  0x11730, 0x118e0, 0x11950, 0x11c50, 0x11d50, 0x11da0, 0x16a60, 0x16ac0, 0x16b50, 0x1d7ce,
  0x1d7d8, 0x1d7e2, 0x1d7ec, 0x1d7f6, 0x1e140, 0x1e2f0, 0x1e950, 0x1fbf0]

end SqlConsole.Text

namespace SqlConsole

def CodePoint.digitValue? (c : CodePoint) : Option Nat :=
  (Text.zeros.find? fun first => first ≤ c.code && c.code < first + 10).map (c.code - ·)

def CodePoint.isDigit (c : CodePoint) : Bool := c.digitValue?.isSome

theorem CodePoint.digitValue?_digitChar {d : Nat} (digit : d < 10) :
    digitValue? (.char d.digitChar) = some d := by
  have each : ∀ d : Fin 10, digitValue? (.char d.val.digitChar) = some d.val := by decide +kernel
  exact each ⟨d, digit⟩

def CodePoint.hexDigitValue? : CodePoint → Option Nat
  | .char c =>
    if '0' ≤ c ∧ c ≤ '9' then some (c.toNat - 0x30)
    else if 'a' ≤ c ∧ c ≤ 'f' then some (c.toNat - 0x57)
    else if 'A' ≤ c ∧ c ≤ 'F' then some (c.toNat - 0x37)
    else none
  | .surrogate _ => none

namespace Text

/-- The number that a run of decimal digits writes; all else counts as zero. -/
def natural (digits : Text) : Nat :=
  digits.foldl (fun n c => 10 * n + c.digitValue?.getD 0) 0

def decimal (n : Nat) : Text := (Nat.toDigits 10 n).map .char

theorem natural_decimal (n : Nat) : natural (decimal n) = n := by
  unfold decimal
  rw [Nat.toDigits_eq_if (by decide)]
  split
  · rename_i digit
    simp [natural, CodePoint.digitValue?_digitChar digit]
  · rename_i large
    have front := natural_decimal (n / 10)
    have last := CodePoint.digitValue?_digitChar (Nat.mod_lt n (by decide : 0 < 10))
    unfold decimal natural at front
    simp only [natural, List.map_append, List.foldl_append, front, List.map_cons, List.map_nil,
      List.foldl_cons, List.foldl_nil, last, Option.getD_some]
    omega
termination_by n

def integer (n : Int) : Text := if n < 0 then '-' :: decimal n.natAbs else decimal n.natAbs

/-! ### Numerals that are too long -/

def digitLimit : Nat := 4300

end Text

inductive Overlong where
  /-- A numeral of so many digits is not read. -/
  | numeral (digits : Nat)
  /-- An integer is not written. -/
  | integer
  deriving DecidableEq, Repr

def Overlong.message : Overlong → Text
  | numeral digits =>
    "Exceeds the limit (4300 digits) for integer string conversion: value has " ++
      Text.decimal digits ++
      " digits; use sys.set_int_max_str_digits() to increase the limit"
  | integer =>
    "Exceeds the limit (4300 digits) for integer string conversion; " ++
      "use sys.set_int_max_str_digits() to increase the limit"

namespace Text

/-- Reads a run of decimal digits. Zeros in front count as digits too. -/
def natural? (digits : Text) : Except Overlong Nat :=
  if digits.length ≤ digitLimit then .ok digits.natural else .error (.numeral digits.length)

end Text

end SqlConsole
