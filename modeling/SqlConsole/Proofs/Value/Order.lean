import SqlConsole.Value.Order
import Mathlib.Algebra.Order.Ring.Rat

/-!
# The order of sort keys

Keys are compared as what they stand for: two numbers by their values, two texts by their code
points, any number before any text and what is missing last (`SortKey.Below`, `SortKey.Level`). The
test that sorting makes is that of a total order (`below_iff`, `level_iff`, `le_eq_not_lt`) on all
keys but those that are not a number.
-/

namespace SqlConsole

/-! ### Texts -/

theorem Text.compare_eq_compareLex (s t : Text) :
    s.compare t = List.compareLex (compareOn CodePoint.code) s t := by
  induction s generalizing t with
  | nil => cases t <;> rfl
  | cons a s ih =>
    cases t with
    | nil => rfl
    | cons b t =>
      rw [Text.compare, List.compareLex_cons_cons, compareOn, ih]
      rcases Nat.lt_trichotomy a.code b.code with less | same | more
      · simp [less, Nat.compare_eq_lt.mpr less]
      · simp [same]
      · simp [Nat.lt_asymm more, more, Nat.compare_eq_gt.mpr more]

theorem Text.compare_swap (s t : Text) : s.compare t = (t.compare s).swap := by
  simp only [compare_eq_compareLex]
  exact Std.OrientedCmp.eq_swap

theorem Text.compare_isLE_trans {s t u : Text} (first : (s.compare t).isLE)
    (second : (t.compare u).isLE) : (s.compare u).isLE := by
  simp only [compare_eq_compareLex] at first second ⊢
  exact Std.TransCmp.isLE_trans first second

theorem CodePoint.code_injective {a b : CodePoint} (same : a.code = b.code) : a = b := by
  -- The number of a character is no surrogate's.
  have apart : ∀ (c : Char) (place : Fin 2048), c.toNat ≠ 0xd800 + place.val := by
    intro c place same
    have valid := c.valid
    simp only [UInt32.isValidChar, Nat.isValidChar] at valid
    have := place.isLt
    change c.val.toNat = _ at same
    omega
  cases a with
  | char c =>
    cases b with
    | char d => exact congrArg _ (Char.toNat_inj.mp same)
    | surrogate place => exact absurd same (apart c place)
  | surrogate place =>
    cases b with
    | char d => exact absurd same.symm (apart d place)
    | surrogate other =>
      simp only [code] at same
      exact congrArg _ (Fin.ext (by omega))

theorem Text.compare_eq_eq_iff {s t : Text} : s.compare t = .eq ↔ s = t := by
  induction s generalizing t with
  | nil => cases t <;> simp [Text.compare]
  | cons a s ih =>
    cases t with
    | nil => simp [Text.compare]
    | cons b t =>
      rw [Text.compare]
      rcases Nat.lt_trichotomy a.code b.code with less | same | more
      · have apart : a ≠ b := fun same => by simp [same] at less
        simp [less, apart]
      · simp [CodePoint.code_injective same, ih]
      · have apart : a ≠ b := fun same => by simp [same] at more
        simp [Nat.lt_asymm more, more, apart]

/-! ### Numbers -/

namespace Place

theorem le_total (p q : Place) : p.le q || q.le p := by
  cases p <;> cases q <;> simp [le, Rat.le_total]

theorem le_trans {p q r : Place} (first : p.le q) (second : q.le r) : p.le r := by
  cases p <;> cases q <;> cases r <;> simp_all [le]
  exact Rat.le_trans first second

theorem le_antisymm {p q : Place} (first : p.le q) (second : q.le p) : p = q := by
  cases p <;> cases q <;> simp_all [le]
  exact Rat.le_antisymm first second

end Place

namespace Number

variable {a b : Number}

theorem compare?_eq_lt_iff (left : a.isNumber) (right : b.isNumber) :
    a.compare? b = some .lt ↔ a.le b ∧ ¬b.le a := by
  unfold compare?
  simp only [left, right, Bool.not_true, Bool.or_self, Bool.false_eq_true, if_false]
  by_cases same : a.place = b.place
  · simp [same, le]
  · have apart : a.le b → ¬b.le a := fun first second => same (Place.le_antisymm first second)
    by_cases less : a.le b <;> simp [same, less, apart]

theorem compare?_eq_eq_iff :
    a.compare? b = some .eq ↔ a.isNumber ∧ b.isNumber ∧ a.place = b.place := by
  unfold compare?
  by_cases left : a.isNumber <;> by_cases right : b.isNumber <;> simp [left, right]
  by_cases same : a.place = b.place
  · simp [same]
  · by_cases less : a.le b <;> simp [same, less]

theorem compare?_eq_eq_iff_le (left : a.isNumber) (right : b.isNumber) :
    a.compare? b = some .eq ↔ a.le b ∧ b.le a := by
  rw [compare?_eq_eq_iff]
  constructor
  · rintro ⟨-, -, same⟩
    have reflexive := Place.le_total b.place b.place
    simpa [le, same] using reflexive
  · intro both
    exact ⟨left, right, Place.le_antisymm both.1 both.2⟩

end Number

/-! ### Keys -/

namespace SortKey

inductive Below : SortKey → SortKey → Prop
  | numbers {a b : Number} (less : a.compare? b = some .lt) : Below (.number a) (.number b)
  | texts {s t : Text} (less : s.compare t = .lt) : Below (.text s) (.text t)
  | numberText (a : Number) (t : Text) : Below (.number a) (.text t)
  | numberNull (a : Number) : Below (.number a) .null
  | textNull (t : Text) : Below (.text t) .null

/-- Whether neither of two keys comes before the other. -/
inductive Level : SortKey → SortKey → Prop
  | numbers {a b : Number} (same : a.compare? b = some .eq) : Level (.number a) (.number b)
  | texts {s t : Text} (same : s.compare t = .eq) : Level (.text s) (.text t)
  | nulls : Level .null .null

theorem Level.symm {a b : SortKey} (level : a.Level b) : b.Level a := by
  rcases level with same | same | _
  · obtain ⟨left, right, place⟩ := Number.compare?_eq_eq_iff.mp same
    exact .numbers (Number.compare?_eq_eq_iff.mpr ⟨right, left, place.symm⟩)
  · rename_i s t
    exact .texts (by rw [Text.compare_swap, same]; rfl)
  · exact .nulls

/-- Whether a key is not after another, where what is not a number comes after all numbers. So this
order is total, and keys that are comparable are in it as they compare (`le_eq_not_lt`). -/
def le : SortKey → SortKey → Bool
  | number a, number b => a.le b
  | number _, _ => true
  | text _, number _ => false
  | text s, text t => (s.compare t).isLE
  | text _, null => true
  | null, null => true
  | null, _ => false

theorem le_total (a b : SortKey) : a.le b || b.le a := by
  cases a <;> cases b <;> simp only [le, Bool.or_true, Bool.true_or, Bool.or_self]
  · exact Place.le_total _ _
  · rename_i s t
    rw [Text.compare_swap t s]
    cases s.compare t <;> rfl

theorem le_trans {a b c : SortKey} (first : a.le b) (second : b.le c) : a.le c := by
  cases a <;> cases b <;> cases c <;> simp_all only [le, Bool.false_eq_true]
  · exact Place.le_trans first second
  · exact Text.compare_isLE_trans first second

variable {a b : SortKey}

theorem below_iff (left : a.isComparable) (right : b.isComparable) :
    a.Below b ↔ a.le b ∧ ¬b.le a := by
  constructor
  · rintro (less | less | _ | _ | _)
    · exact (Number.compare?_eq_lt_iff left right).mp less
    · rename_i s t
      simp [le, Text.compare_swap t s, less]
    all_goals simp [le]
  · intro strict
    cases a <;> cases b <;> simp only [le, Bool.false_eq_true, not_true, and_false] at strict
    · exact .numbers ((Number.compare?_eq_lt_iff left right).mpr strict)
    · exact .numberText _ _
    · exact .numberNull _
    · rename_i s t
      refine .texts ?_
      rw [Text.compare_swap t s] at strict
      cases order : s.compare t <;> simp_all
    · exact .textNull _

theorem level_iff (left : a.isComparable) (right : b.isComparable) :
    a.Level b ↔ a.le b ∧ b.le a := by
  constructor
  · rintro (same | same | _)
    · exact (Number.compare?_eq_eq_iff_le left right).mp same
    · rename_i s t
      simp [le, Text.compare_swap t s, same]
    · simp [le]
  · intro both
    cases a <;> cases b <;> simp only [le, Bool.false_eq_true, false_and, and_false] at both
    · exact .numbers ((Number.compare?_eq_eq_iff_le left right).mpr both)
    · rename_i s t
      refine .texts ?_
      rw [Text.compare_swap t s] at both
      cases order : s.compare t <;> simp_all
    · exact .nulls

theorem trichotomy (left : a.isComparable) (right : b.isComparable) :
    a.Below b ∨ a.Level b ∨ b.Below a := by
  rw [below_iff left right, level_iff left right, below_iff right left]
  have total := Bool.or_eq_true_iff.mp (le_total a b)
  tauto

theorem below_iff_lt : a.Below b ↔ a.lt b = true := by
  constructor
  · rintro (less | less | _ | _ | _) <;> simp [lt, *]
  · intro less
    cases a <;> cases b <;> simp only [lt, Bool.false_eq_true, beq_iff_eq] at less
    · exact .numbers less
    · exact .numberText _ _
    · exact .numberNull _
    · exact .texts less
    · exact .textNull _

theorem le_eq_not_lt (left : a.isComparable) (right : b.isComparable) : a.le b = !b.lt a := by
  have total := le_total a b
  rw [← Bool.not_eq_eq_eq_not, Bool.eq_iff_iff, ← below_iff_lt, below_iff right left]
  cases first : a.le b <;> cases second : b.le a <;> simp_all

end SortKey

end SqlConsole
