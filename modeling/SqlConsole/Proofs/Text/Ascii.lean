import SqlConsole.Proofs.Text.Name

/-!
# Texts in ASCII

A text in ASCII is put in lower case character by character (`IsAscii.lower_eq`), so it keeps its
length and stays in ASCII.
-/

namespace SqlConsole

theorem CodePoint.code_lower_lt {c : CodePoint} (ascii : c.code < 0x80) : c.lower.code < 0x80 := by
  cases c with
  | surrogate place => exact ascii
  | char ch =>
    exact forall_ascii (p := fun ch => (lower ch).code < 0x80) (by decide +kernel) ascii

namespace Text

def IsAscii (t : Text) : Prop := ∀ c ∈ t, c.code < 0x80

instance (t : Text) : Decidable (IsAscii t) := inferInstanceAs (Decidable (∀ c ∈ t, c.code < 0x80))

variable {t u : Text}

theorem IsAscii.of_subset (ascii : u.IsAscii) (subset : t ⊆ u) : t.IsAscii :=
  fun c member => ascii c (subset member)

theorem IsAscii.append (left : t.IsAscii) (right : u.IsAscii) : IsAscii (t ++ u) :=
  List.forall_mem_append.mpr ⟨left, right⟩

theorem IsAscii.lower_eq (ascii : t.IsAscii) : t.lower = t.map CodePoint.lower := by
  have plain : ∀ c ∈ t, c ≠ '\u0130' ∧ c ≠ '\u03a3' := by
    intro c member
    constructor
    · rintro rfl
      exact absurd (ascii _ member) (by decide)
    · rintro rfl
      exact absurd (ascii _ member) (by decide)
  have whole := lowerFrom_plain plain [] []
  rwa [List.append_nil, lowerFrom, List.append_nil] at whole

theorem IsAscii.lower (ascii : t.IsAscii) : t.lower.IsAscii := by
  rw [ascii.lower_eq]
  intro c member
  obtain ⟨d, present, rfl⟩ := List.mem_map.mp member
  exact CodePoint.code_lower_lt (ascii d present)

end Text

end SqlConsole
