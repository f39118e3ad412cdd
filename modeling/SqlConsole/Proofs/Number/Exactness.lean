import SqlConsole.Number.Binary64
import Mathlib.Algebra.Order.Field.Power
import Mathlib.Data.Rat.Floor
import Mathlib.Tactic.NormNum
import Mathlib.Tactic.Positivity

/-!
# Numbers without rounding

A rational that is the value of a number of 64 bits (`IsRepresentable`) is the value of the number
nearest to it (`toRat?_ofRat`), so arithmetic that stays among such values is exact.
-/

namespace SqlConsole.Binary64

/-! ### Powers of two -/

theorem powerOfTwo_eq_zpow (e : Int) : powerOfTwo e = (2 : ℚ) ^ e := by
  unfold powerOfTwo
  split
  · rename_i upward
    obtain ⟨n, rfl⟩ := Int.eq_ofNat_of_zero_le upward
    simp
  · rename_i downward
    obtain ⟨n, rfl⟩ := Int.exists_eq_neg_ofNat (le_of_not_ge downward)
    simp

theorem zpow_binaryOrder_le {q : ℚ} (positive : 0 < q) : (2 : ℚ) ^ binaryOrder q ≤ q := by
  unfold binaryOrder
  simp only [powerOfTwo_eq_zpow]
  split
  · assumption
  have num : 0 < q.num := Rat.num_pos.mpr positive
  have above : (2 : ℚ) ^ q.num.toNat.log2 ≤ q.num := by
    have whole : ((q.num.toNat : ℤ) : ℚ) = q.num := by rw [Int.toNat_of_nonneg num.le]
    rw [← whole]
    exact_mod_cast Nat.log2_self_le (n := q.num.toNat) (by omega)
  have below : (q.den : ℚ) ≤ 2 ^ (q.den.log2 + 1) := by
    exact_mod_cast (Nat.lt_log2_self (n := q.den)).le
  have den : (0 : ℚ) < q.den := by exact_mod_cast q.den_pos
  calc (2 : ℚ) ^ ((q.num.toNat.log2 : ℤ) - q.den.log2 - 1)
      = 2 ^ q.num.toNat.log2 / 2 ^ (q.den.log2 + 1) := by
        rw [sub_sub, zpow_sub₀ two_ne_zero]
        norm_cast
    _ ≤ q.num / q.den := by gcongr
    _ = q := Rat.num_div_den q

/-! ### Numbers are their own rounding -/

theorem toRat?_finite (m : Nat) (e : Int) :
    (finite false m e).toRat? = some ((m : ℚ) * 2 ^ e) := by
  simp [toRat?, magnitude, powerOfTwo_eq_zpow]

theorem roundHalfEven_natCast (n : Nat) : roundHalfEven n = n := by
  have whole : (n : ℚ).floor.toNat = n := by simp [Rat.floor_def]
  simp [roundHalfEven, whole]

/-- Whether a rational that is not negative is the value of a number. -/
def IsRepresentable (q : ℚ) : Prop :=
  ∃ (m : Nat) (e : Int), m < significandBound ∧ minExponent ≤ e ∧ e ≤ maxExponent ∧ q = m * 2 ^ e

theorem representable_div {a j : Nat} (bounded : a < significandBound) (shallow : j ≤ 1074) :
    IsRepresentable ((a : ℚ) / 2 ^ j) := by
  refine ⟨a, -j, bounded, ?_, ?_, ?_⟩
  · rw [minExponent]
    omega
  · rw [maxExponent]
    omega
  · rw [zpow_neg, zpow_natCast, div_eq_mul_inv]

theorem binaryOrder_lt {m : Nat} {e : Int} (bounded : m < significandBound)
    (positive : (0 : ℚ) < m * 2 ^ e) : binaryOrder (m * 2 ^ e) < 53 + e := by
  have below : (m : ℚ) < 2 ^ (53 : ℤ) := by
    have cast : (m : ℚ) < (significandBound : ℚ) := by exact_mod_cast bounded
    norm_num [significandBound] at cast ⊢
    exact cast
  have upper : (2 : ℚ) ^ binaryOrder (m * 2 ^ e) < 2 ^ (53 + e) := by
    calc (2 : ℚ) ^ binaryOrder (m * 2 ^ e)
        ≤ m * 2 ^ e := zpow_binaryOrder_le positive
      _ < 2 ^ (53 : ℤ) * 2 ^ e := by gcongr
      _ = 2 ^ (53 + e) := (zpow_add₀ two_ne_zero _ _).symm
  exact (zpow_lt_zpow_iff_right₀ one_lt_two).mp upper

theorem toRat?_ofRat {q : ℚ} (representable : IsRepresentable q) : (ofRat q).toRat? = some q := by
  obtain ⟨m, e, bounded, least, greatest, rfl⟩ := representable
  have nonneg : (0 : ℚ) ≤ m * 2 ^ e := by positivity
  rw [ofRat, if_neg (not_lt.mpr nonneg), ofMagnitude]
  by_cases zero : (m : ℚ) * 2 ^ e = 0
  · rw [if_pos zero, toRat?_finite, zero, Nat.cast_zero, zero_mul]
  rw [if_neg zero]
  have order := binaryOrder_lt bounded (lt_of_le_of_ne nonneg (Ne.symm zero))
  -- The exponent of the result is not above the given one, so that no digit is cut off.
  obtain ⟨exponent, chosen⟩ :
    ∃ exponent, exponent = max (binaryOrder (m * 2 ^ e) - 52) minExponent := ⟨_, rfl⟩
  obtain ⟨shift, rfl⟩ := Int.le.dest (show exponent ≤ e by omega)
  have same : ((m * 2 ^ shift : Nat) : ℚ) * 2 ^ exponent = m * 2 ^ (exponent + (shift : ℤ)) := by
    rw [zpow_add₀ two_ne_zero, zpow_natCast]
    push_cast
    ring
  have whole : (m : ℚ) * 2 ^ (exponent + (shift : ℤ)) / powerOfTwo exponent =
      ((m * 2 ^ shift : Nat) : ℚ) := by
    rw [← same, powerOfTwo_eq_zpow]
    exact mul_div_cancel_right₀ _ (zpow_ne_zero _ two_ne_zero)
  simp only [← chosen, whole, roundHalfEven_natCast]
  rw [← same]
  split
  · rename_i carried
    have shifted : shift ≠ 0 := by
      rintro rfl
      omega
    rw [if_neg (by omega), toRat?_finite, carried, zpow_add_one₀ two_ne_zero]
    norm_num [significandBound]
    ring
  · rw [if_neg (by omega), toRat?_finite]

/-! ### Integer parts -/

theorem truncate_of_toRat? {x : Binary64} {a b : Nat} (value : x.toRat? = some ((a : ℚ) / b)) :
    x.truncate = (a / b : Nat) := by
  have floor : ⌊(a : ℚ) / b⌋ = (a / b : Nat) := by
    rw [Rat.floor_natCast_div_natCast]
    rfl
  have nonneg : 0 ≤ ((a : ℚ) / b).num := Rat.num_nonneg.mpr (by positivity)
  rw [truncate, value, ← floor, Rat.floor_def']
  exact Int.tdiv_eq_ediv_of_nonneg nonneg

end SqlConsole.Binary64
