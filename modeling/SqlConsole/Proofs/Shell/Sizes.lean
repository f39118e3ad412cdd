import SqlConsole.Proofs.Number.Exactness
import SqlConsole.Shell.Size
import Mathlib.Tactic.Linarith

/-!
# Sizes as they are shown

A size of up to 2^52 bytes is divided and rounded without loss, so it is shown as the nearest whole
number of the largest unit that it fills (`exists_humanize`). The unit is chosen before the number
is rounded: a size that falls short of the next unit by at most half a unit is shown as 1024 units,
and no other is (`humanize_canonical`).
-/

namespace SqlConsole.Shell

open Binary64 (IsRepresentable representable_div toRat?_ofRat truncate_of_toRat?)

variable {x : Binary64} {n k l last m : Nat}

/-! ### Arithmetic on sizes -/

theorem fillsUnit_iff {q : ℚ} (value : x.toRat? = some q) : fillsUnit x = true ↔ 1024 ≤ q := by
  cases x with
  | nan => cases value
  | infinite negative => cases value
  | finite negative m e =>
    cases value
    simp [fillsUnit, Number.le, Number.isNumber, Number.place, Place.le]

theorem toRat?_onRat {f : ℚ → ℚ} {q : ℚ} (value : x.toRat? = some q)
    (representable : IsRepresentable (f q)) : (onRat f x).toRat? = some (f q) := by
  rw [onRat, value]
  exact toRat?_ofRat representable

theorem representable_size (bounded : n ≤ 2 ^ 52) (shallow : k ≤ 100) :
    IsRepresentable ((n : ℚ) / 1024 ^ k) := by
  have binary : (1024 : ℚ) ^ k = 2 ^ (10 * k) := by
    rw [pow_mul]
    norm_num
  rw [binary]
  refine representable_div ?_ (by omega)
  rw [Binary64.significandBound]
  omega

/-! ### The unit of a size -/

/-- Whether the unit of 1024 to the power `k` is the largest one that a size fills, out of those up
to a last one. The first unit counts as filled. -/
structure Fills (n last k : Nat) : Prop where
  le : k ≤ last
  filled : k = 0 ∨ 1024 ^ k ≤ n
  short : k = last ∨ n < 1024 ^ (k + 1)

theorem Fills.le_of_fills (first : Fills n last k) (second : Fills n last l) : l ≤ k := by
  by_contra less
  have upTo := second.le
  have short : n < 1024 ^ (k + 1) := first.short.resolve_left (by omega)
  have filled : 1024 ^ l ≤ n := second.filled.resolve_left (by omega)
  have above : 1024 ^ (k + 1) ≤ 1024 ^ l := Nat.pow_le_pow_right (by decide) (by omega)
  omega

theorem Fills.unique (first : Fills n last k) (second : Fills n last l) : k = l :=
  le_antisymm (second.le_of_fills first) (first.le_of_fills second)

theorem exists_scale (unit : Text) (larger : List Text) (bounded : n ≤ 2 ^ 52) {i : Nat}
    (shallow : i + larger.length ≤ 100) (filled : i = 0 ∨ 1024 ^ i ≤ n)
    (value : x.toRat? = some ((n : ℚ) / 1024 ^ i)) :
    ∃ k y name, scale x unit larger = (y, name) ∧ (unit :: larger)[k]? = some name ∧
      y.toRat? = some ((n : ℚ) / 1024 ^ (i + k)) ∧ Fills n (i + larger.length) (i + k) := by
  induction larger generalizing i x unit with
  | nil => exact ⟨0, x, unit, rfl, rfl, value, le_rfl, filled, .inl rfl⟩
  | cons next larger ih =>
    rw [List.length_cons] at shallow ⊢
    have divided : (n : ℚ) / 1024 ^ i / 1024 = n / 1024 ^ (i + 1) := by
      rw [div_div, ← pow_succ]
    have fills : fillsUnit x = true ↔ 1024 ^ (i + 1) ≤ n := by
      rw [fillsUnit_iff value, le_div_iff₀ (by positivity), ← pow_succ']
      exact_mod_cast Iff.rfl
    by_cases more : 1024 ^ (i + 1) ≤ n
    · have scaled : (onRat (· / 1024) x).toRat? = some ((n : ℚ) / 1024 ^ (i + 1)) := by
        rw [← divided]
        refine toRat?_onRat value ?_
        rw [divided]
        exact representable_size bounded (by omega)
      obtain ⟨k, y, name, same, named, rest, largest⟩ :=
        ih next (by omega) (.inr more) scaled
      have further : i + (k + 1) = i + 1 + k := by omega
      have ended : i + (larger.length + 1) = i + 1 + larger.length := by omega
      refine ⟨k + 1, y, name, ?_, named, ?_, ?_⟩
      · rw [scale, if_pos (fills.mpr more), same]
      · rw [further, rest]
      · rw [further, ended]
        exact largest
    · refine ⟨0, x, unit, ?_, rfl, value, by omega, filled, .inr (by simpa using more)⟩
      rw [scale, if_neg (mt fills.mp more)]

/-! ### Rounding -/

/-- The number of units nearest to a size, the greater one of two. -/
def rounded (n k : Nat) : Nat := (2 * n + 1024 ^ k) / (2 * 1024 ^ k)

theorem representable_half (bounded : n ≤ 2 ^ 52) (fills : Fills n 3 k) :
    IsRepresentable ((n : ℚ) / 1024 ^ k + 1 / 2) := by
  cases k with
  | zero =>
    -- A number of bytes is small, so there is a binary digit left for the half.
    have small : n < 1024 := by simpa using fills.short
    have half : (n : ℚ) / 1024 ^ 0 + 1 / 2 = ((2 * n + 1 : Nat) : ℚ) / 2 ^ 1 := by
      push_cast
      ring
    rw [half]
    refine representable_div ?_ (by omega)
    rw [Binary64.significandBound]
    omega
  | succ j =>
    -- A half of a larger unit is a whole number of bytes.
    have half : (n : ℚ) / 1024 ^ (j + 1) + 1 / 2 =
        ((n + 512 * 1024 ^ j : Nat) : ℚ) / 2 ^ (10 * (j + 1)) := by
      rw [pow_mul]
      push_cast
      field_simp
      ring
    have shallow := fills.le
    have above : 1024 ^ j ≤ 1024 ^ 2 := Nat.pow_le_pow_right (by decide) (by omega)
    rw [half]
    refine representable_div ?_ (by omega)
    rw [Binary64.significandBound]
    omega

theorem truncate_half (bounded : n ≤ 2 ^ 52) (fills : Fills n 3 k)
    (value : x.toRat? = some ((n : ℚ) / 1024 ^ k)) :
    (onRat (· + 1 / 2) x).truncate = rounded n k := by
  have whole : (n : ℚ) / 1024 ^ k + 1 / 2 =
      ((2 * n + 1024 ^ k : Nat) : ℚ) / (2 * 1024 ^ k : Nat) := by
    push_cast
    field_simp
  refine truncate_of_toRat? ?_
  rw [← whole]
  exact toRat?_onRat (f := (· + 1 / 2)) value (representable_half bounded fills)

theorem rounded_bounds (n k : Nat) :
    2 * (rounded n k * 1024 ^ k) ≤ 2 * n + 1024 ^ k ∧
      2 * n < 2 * (rounded n k * 1024 ^ k) + 1024 ^ k := by
  have positive : 0 < 2 * 1024 ^ k := by positivity
  have cut := Nat.div_add_mod' (2 * n + 1024 ^ k) (2 * 1024 ^ k)
  have rest := Nat.mod_lt (2 * n + 1024 ^ k) positive
  rw [← rounded, Nat.mul_left_comm] at cut
  omega

theorem rounded_le (fills : Fills n 3 k) (larger : k < 3) : rounded n k ≤ 1024 := by
  have short : n < 1024 ^ (k + 1) := fills.short.resolve_left (by omega)
  rw [pow_succ] at short
  refine Nat.lt_succ_iff.mp (Nat.div_lt_of_lt_mul ?_)
  omega

/-- Whether a size falls short of the next unit by at most half a unit. -/
structure AlmostFills (n k : Nat) : Prop where
  near : 2 * 1024 ^ (k + 1) ≤ 2 * n + 1024 ^ k
  short : n < 1024 ^ (k + 1)

theorem AlmostFills.fills (almost : AlmostFills n k) (larger : k < 3) : Fills n 3 k := by
  refine ⟨larger.le, .inr ?_, .inr almost.short⟩
  have near := almost.near
  rw [pow_succ] at near
  omega

theorem rounded_le_iff (fills : Fills n 3 k) (larger : k < 3) :
    rounded n k ≤ 1023 ↔ ¬ AlmostFills n k := by
  have short : n < 1024 ^ (k + 1) := fills.short.resolve_left (by omega)
  have below : rounded n k < 1024 ↔ 2 * n + 1024 ^ k < 1024 * (2 * 1024 ^ k) :=
    Nat.div_lt_iff_lt_mul (by positivity)
  rw [← Nat.lt_succ_iff, below]
  constructor
  · intro less almost
    have near := almost.near
    rw [pow_succ] at near
    omega
  · intro apart
    by_contra most
    refine apart ⟨?_, short⟩
    rw [pow_succ]
    omega

/-! ### Texts of sizes -/

def units : List Text := ["B", "K", "M", "G"]

/-- Whether a text shows a size as a number of the unit of 1024 to the power `k`: the nearest one,
halves rounded up. -/
structure Shows (text : Text) (n k m : Nat) : Prop where
  written : ∃ unit, units[k]? = some unit ∧ text = Text.decimal m ++ unit
  near : |(m : ℚ) * 1024 ^ k - n| ≤ 1024 ^ k / 2
  up : (n : ℚ) - m * 1024 ^ k < 1024 ^ k / 2

/-- Whether a text shows a size, and not as 1024 of a unit where 1 of the next would do. -/
def IsCanonical (text : Text) (n : Nat) : Prop :=
  ∃ k m, Shows text n k m ∧ (k < 3 → m ≤ 1023)

theorem shows_rounded {unit : Text} (named : units[k]? = some unit) :
    Shows (Text.decimal (rounded n k) ++ unit) n k (rounded n k) := by
  obtain ⟨low, high⟩ := rounded_bounds n k
  have low : 2 * ((rounded n k : ℚ) * 1024 ^ k) ≤ 2 * n + 1024 ^ k := by exact_mod_cast low
  have high : 2 * (n : ℚ) < 2 * (rounded n k * 1024 ^ k) + 1024 ^ k := by exact_mod_cast high
  refine ⟨⟨unit, named, rfl⟩, abs_le.mpr ⟨?_, ?_⟩, ?_⟩ <;> linarith

theorem written_unique {p : Nat} {unit other : Text} (first : units[k]? = some unit)
    (second : units[l]? = some other) (same : Text.decimal m ++ unit = Text.decimal p ++ other) :
    k = l ∧ m = p := by
  have single : ∀ u ∈ units, u.length = 1 := by decide
  have distinct : units.Nodup := by decide
  have length := single _ (List.mem_of_getElem? first)
  have otherLength := single _ (List.mem_of_getElem? second)
  obtain ⟨digits, rfl⟩ := List.append_inj' same (length.trans otherLength.symm)
  obtain ⟨inside, -⟩ := List.getElem?_eq_some_iff.mp first
  refine ⟨(List.getElem?_inj inside distinct).mp (first.trans second.symm), ?_⟩
  rw [← Text.natural_decimal m, digits, Text.natural_decimal]

theorem exists_humanize (bounded : n ≤ 2 ^ 52) :
    ∃ k unit, Fills n 3 k ∧ units[k]? = some unit ∧
      humanize (.integer n) = Text.decimal (rounded n k) ++ unit := by
  have value : (toBinary (.integer n)).toRat? = some ((n : ℚ) / 1024 ^ 0) := by
    have size := representable_size bounded (Nat.zero_le 100)
    rw [pow_zero, div_one] at size ⊢
    exact toRat?_ofRat size
  obtain ⟨k, y, unit, scaled, named, rest, fills⟩ :=
    exists_scale "B" ["K", "M", "G"] bounded (by decide) (.inl rfl) value
  rw [Nat.zero_add k] at rest fills
  refine ⟨k, unit, fills, named, ?_⟩
  rw [humanize, scaled]
  dsimp only
  rw [truncate_half bounded fills rest, Text.integer, if_neg (not_lt.mpr (Int.natCast_nonneg _)),
    Int.natAbs_natCast]

/-- A size is shown as the nearest number of the largest unit that it fills. This is 1024 of a unit
exactly if the size falls short of the next one by at most half a unit, and all other sizes are
shown as they should be. -/
theorem humanize_canonical (bounded : n ≤ 2 ^ 52) :
    (∃ k m, Fills n 3 k ∧ Shows (humanize (.integer n)) n k m ∧ (k < 3 → m ≤ 1024)) ∧
      (IsCanonical (humanize (.integer n)) n ↔ ∀ k < 3, ¬ AlmostFills n k) ∧
      ∀ k < 3, AlmostFills n k → Shows (humanize (.integer n)) n k 1024 := by
  obtain ⟨k, unit, fills, named, same⟩ := exists_humanize bounded
  have shows : Shows (humanize (.integer n)) n k (rounded n k) := same ▸ shows_rounded named
  have only : ∀ l < 3, AlmostFills n l → l = k := fun l larger almost =>
    (almost.fills larger).unique fills
  refine ⟨⟨k, _, fills, shows, rounded_le fills⟩, ⟨?_, ?_⟩, ?_⟩
  · rintro ⟨l, m, ⟨⟨other, second, written⟩, -, -⟩, small⟩ j larger almost
    obtain ⟨rfl, rfl⟩ := written_unique named second (same.symm.trans written)
    obtain rfl := only j larger almost
    exact (rounded_le_iff fills larger).mp (small larger) almost
  · intro apart
    exact ⟨k, _, shows, fun larger => (rounded_le_iff fills larger).mpr (apart k larger)⟩
  · intro l larger almost
    obtain rfl := only l larger almost
    have most : ¬ rounded n l ≤ 1023 := fun less => (rounded_le_iff fills larger).mp less almost
    have full : rounded n l = 1024 := by
      have := rounded_le fills larger
      omega
    exact full ▸ shows

theorem humanize_canonical_almostGiga :
    1073217536 ≤ 2 ^ 52 ∧ AlmostFills 1073217536 2 ∧
      Shows (humanize (.integer 1073217536)) 1073217536 2 1024 ∧
      ¬ IsCanonical (humanize (.integer 1073217536)) 1073217536 := by
  have bounded : 1073217536 ≤ 2 ^ 52 := by decide
  have almost : AlmostFills 1073217536 2 := ⟨by decide, by decide⟩
  obtain ⟨-, canonical, shown⟩ := humanize_canonical bounded
  exact ⟨bounded, almost, shown 2 (by decide) almost,
    fun same => canonical.mp same 2 (by decide) almost⟩

/-- A size of one byte less than a megabyte is shown as 1024 kilobytes. -/
theorem humanize_almostMega :
    1048575 ≤ 2 ^ 52 ∧ humanize (.integer 1048575) = "1024K" ∧
      ¬ IsCanonical (humanize (.integer 1048575)) 1048575 := by
  have shown : humanize (.integer 1048575) = "1024K" := by decide +kernel
  refine ⟨by decide, shown, ?_⟩
  rintro ⟨k, m, ⟨⟨unit, named, written⟩, -, -⟩, small⟩
  have cut : humanize (.integer 1048575) = Text.decimal 1024 ++ Text.ofString "K" := shown
  obtain ⟨rfl, rfl⟩ := written_unique (k := 1) rfl named (cut.symm.trans written)
  exact absurd (small (by decide)) (by decide)

end SqlConsole.Shell
