import SqlConsole.Proofs.Text.Case
import SqlConsole.Proofs.Text.Trim

/-!
# Words of a text

A text has a word unless it is blank (`words_eq_nil_iff`), in lower case too (`words_lower`). Its
words are found one by one, at the blanks between them (`words_append`, `words_append_of_allBlank`).
-/

namespace SqlConsole.Text

theorem words_eq_nil_iff {t : Text} : t.words = [] ↔ t.AllBlank := by
  induction t with
  | nil => simp [words, AllBlank]
  | cons c cs ih =>
    rw [words.eq_def]
    dsimp only
    by_cases blank : c.isBlank = true
    · rw [if_pos blank, ih]
      simp [AllBlank, blank]
    · have visible : ¬AllBlank (c :: cs) := fun all => blank (all c List.mem_cons_self)
      rw [if_neg blank]
      refine iff_of_false ?_ visible
      split
      · simp
      · split
        · simp
        · split <;> simp

theorem words_ne_nil {c : CodePoint} {t : Text} (member : c ∈ t) (solid : c.isBlank = false) :
    t.words ≠ [] := by
  intro none
  have blank := words_eq_nil_iff.mp none c member
  rw [solid] at blank
  exact Bool.noConfusion blank

theorem ne_nil_of_mem_words {t w : Text} (member : w ∈ t.words) : w ≠ [] := by
  induction t with
  | nil => cases member
  | cons c cs ih =>
    rw [words.eq_def] at member
    dsimp only at member
    split at member
    · exact ih member
    split at member
    · exact List.mem_singleton.mp member ▸ List.cons_ne_nil c []
    split at member
    · rcases List.mem_cons.mp member with rfl | later
      · exact List.cons_ne_nil c []
      · exact ih later
    split at member
    · exact List.mem_singleton.mp member ▸ List.cons_ne_nil c []
    · rename_i same
      rcases List.mem_cons.mp member with rfl | later
      · exact List.cons_ne_nil c _
      · exact ih (same ▸ List.mem_cons_of_mem _ later)

theorem words_append_of_allBlank {b : Text} (blank : b.AllBlank) (t : Text) :
    words (b ++ t) = words t := by
  induction b with
  | nil => rfl
  | cons c b ih =>
    obtain ⟨first, others⟩ := List.forall_mem_cons.mp blank
    rw [List.cons_append, words.eq_def]
    dsimp only
    rw [if_pos first, ih others]

theorem words_append {w x : Text} (visible : w ≠ []) (solid : ∀ c ∈ w, c.isBlank = false)
    (edge : ∀ c ∈ x.head?, c.isBlank = true) : words (w ++ x) = w :: words x := by
  obtain ⟨c, cs, rfl⟩ := List.exists_cons_of_ne_nil visible
  clear visible
  induction cs generalizing c with
  | nil =>
    have first := solid c List.mem_cons_self
    cases x with
    | nil => simp [words, first]
    | cons d ds => simp [words, first, edge d rfl]
  | cons d ds ih =>
    obtain ⟨first, others⟩ := List.forall_mem_cons.mp solid
    rw [List.cons_append, words.eq_def]
    simp only [first, Bool.false_eq_true, if_false, List.cons_append]
    rw [if_neg (by simp [others d List.mem_cons_self]), ← List.cons_append, ih d others]

theorem words_lower {t : Text} (trimmed : t.IsTrimmed) (visible : t ≠ []) : t.lower.words ≠ [] := by
  obtain ⟨c, cs, rfl⟩ := List.exists_cons_of_ne_nil visible
  obtain ⟨d, member⟩ := List.exists_mem_of_ne_nil _ (lowerBetween_ne_nil [] c cs)
  exact words_ne_nil (List.mem_append_left _ member)
    (solid_of_mem_lowerBetween (trimmed.1 c rfl) member)

end SqlConsole.Text
