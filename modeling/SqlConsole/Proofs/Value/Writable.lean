import SqlConsole.Value.Display
import Mathlib.Data.List.Induction

/-!
# Values that can be written

An integer that was read can be written (`isWritable_of_natural?`), and a compound value can be
exactly if what it holds can (`isWritable_list`, `isWritable_mapping`).
-/

namespace SqlConsole

theorem CodePoint.digitValue?_lt {c : CodePoint} {d : Nat} (digit : c.digitValue? = some d) :
    d < 10 := by
  unfold digitValue? at digit
  obtain ⟨first, found, rfl⟩ := Option.map_eq_some_iff.mp digit
  have inside := List.find?_some found
  simp only [Bool.and_eq_true, decide_eq_true_eq] at inside
  omega

theorem Text.natural_concat (t : Text) (c : CodePoint) :
    natural (t ++ [c]) = 10 * natural t + c.digitValue?.getD 0 := by
  simp [natural]

theorem Text.natural_lt (t : Text) : t.natural < Nat.pow 10 t.length := by
  induction t using List.reverseRecOn with
  | nil => decide
  | append_singleton t c ih =>
    have digit : c.digitValue?.getD 0 < 10 := by
      cases found : c.digitValue? with
      | none => decide
      | some d => exact CodePoint.digitValue?_lt found
    have natural := natural_concat t c
    have bound : Nat.pow 10 (t.length + 1) = Nat.pow 10 t.length * 10 := rfl
    rw [List.length_append, List.length_singleton]
    omega

theorem Text.natural_lt_of_length_le {t : Text} {size : Nat} (short : t.length ≤ size) :
    t.natural < Nat.pow 10 size :=
  Nat.lt_of_lt_of_le t.natural_lt (Nat.pow_le_pow_right (by decide) short)

namespace Value

theorem isWritable_integer {n : Int} : (integer n).isWritable = true ↔
    n.natAbs < Nat.pow 10 Text.digitLimit := by
  rw [isWritable, decide_eq_true_iff]

theorem isWritable_of_natural? {digits : Text} {n : Nat} (read : digits.natural? = .ok n)
    (negative : Bool) : (integer (if negative then -(n : Int) else n)).isWritable = true := by
  have short : n < Nat.pow 10 Text.digitLimit := by
    unfold Text.natural? at read
    split at read
    · rename_i short
      cases read
      exact Text.natural_lt_of_length_le short
    · cases read
  have size : (if negative then -(n : Int) else n).natAbs = n := by cases negative <;> simp
  rw [isWritable_integer, size]
  exact short

theorem areWritable_iff {vs : List Value} :
    areWritable vs = true ↔ ∀ v ∈ vs, v.isWritable = true := by
  induction vs with
  | nil => simp [areWritable]
  | cons v vs ih => simp [areWritable, ih]

theorem entriesAreWritable_iff {es : List (Text × Value)} :
    entriesAreWritable es = true ↔ ∀ e ∈ es, e.2.isWritable = true := by
  induction es with
  | nil => simp [entriesAreWritable]
  | cons e es ih => simp [entriesAreWritable, ih]

theorem isWritable_list {items : List Value} :
    (list items).isWritable = true ↔ ∀ v ∈ items, v.isWritable = true := areWritable_iff

theorem isWritable_mapping {entries : List (Text × Value)} :
    (mapping entries).isWritable = true ↔ ∀ e ∈ entries, e.2.isWritable = true :=
  entriesAreWritable_iff

end Value

end SqlConsole
