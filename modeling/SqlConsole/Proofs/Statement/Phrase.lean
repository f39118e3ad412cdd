import SqlConsole.Proofs.Query.RoundTrip
import SqlConsole.Proofs.Text.Words

/-!
# Phrases

A phrase is a text of words with gaps between them. Cut at its blanks it gives back its words
(`IsPhrase.words`), and so do the tokens that it is scanned to (`IsPhrase.scanFrom`).
-/

namespace SqlConsole

open Rendering (gap)

inductive IsPhrase : List Text → Text → Prop
  | last (w : Text) : IsPhrase [w] w
  | next (w : Text) {ws : List Text} {g t : Text} (apart : g ∈ gap) (rest : IsPhrase ws t) :
    IsPhrase (w :: ws) (w ++ (g ++ t))

namespace IsPhrase

variable {w t : Text} {ws : List Text}

theorem exists_append (phrase : IsPhrase (w :: ws) t) : ∃ rest, t = w ++ rest := by
  cases phrase with
  | last => exact ⟨[], (List.append_nil _).symm⟩
  | next _ _ _ => exact ⟨_, rfl⟩

theorem mem_of_getLast? (phrase : IsPhrase ws t) (visible : ∀ w ∈ ws, w ≠ []) :
    ∀ c ∈ t.getLast?, ∃ w ∈ ws, c ∈ w := by
  induction phrase with
  | last w => exact fun c last => ⟨w, List.mem_cons_self, List.mem_of_getLast? last⟩
  | @next w ws g t apart rest ih =>
    intro c last
    have others := (List.forall_mem_cons.mp visible).2
    have present : t ≠ [] := by
      cases rest with
      | last => exact others t List.mem_cons_self
      | next v _ _ => simp [others v List.mem_cons_self]
    rw [List.getLast?_append_of_ne_nil _ (by simp [present]),
      List.getLast?_append_of_ne_nil _ present] at last
    obtain ⟨v, member, inside⟩ := ih others c last
    exact ⟨v, List.mem_cons_of_mem w member, inside⟩

theorem words (phrase : IsPhrase ws t)
    (solid : ∀ w ∈ ws, w ≠ [] ∧ ∀ c ∈ w, c.isBlank = false) {b : Text} (blank : b.AllBlank) :
    Text.words (t ++ b) = ws := by
  induction phrase with
  | last w =>
    obtain ⟨visible, solid⟩ := solid w List.mem_cons_self
    have edge : ∀ c ∈ b.head?, c.isBlank = true :=
      fun c head => blank c (List.mem_of_mem_head? head)
    rw [Text.words_append visible solid edge, Text.words_eq_nil_iff.mpr blank]
  | next w apart rest ih =>
    obtain ⟨⟨visible, solid⟩, others⟩ := List.forall_mem_cons.mp solid
    rw [List.append_assoc, List.append_assoc,
      Text.words_append visible solid (Rendering.head?_of_gap apart _),
      Text.words_append_of_allBlank apart.1, ih others]

theorem scanFrom (phrase : IsPhrase ws t) (words : ∀ w ∈ ws, Text.IsWord w) (p : Position)
    {rest : Text} (edge : ∀ c ∈ rest.head?, c.isWord = false) :
    ∃ tokens, Token.scanFrom p 0 (t ++ rest) = tokens ++ Token.scanFrom (p.after t) 0 rest ∧
      List.Forall₂ (fun token w => token.kind = Token.wordKind w ∧ token.value = w) tokens ws := by
  have value : ∀ w : Text, Token.valueOf (Token.wordKind w) w = w := by
    intro w
    unfold Token.wordKind
    split <;> rfl
  induction phrase generalizing p with
  | last w =>
    have word := words w List.mem_cons_self
    exact ⟨_, Token.scanFrom_word p word edge, .cons ⟨rfl, value w⟩ .nil⟩
  | @next w ws g t apart more ih =>
    obtain ⟨word, others⟩ := List.forall_mem_cons.mp words
    have ends : ∀ c ∈ (g ++ (t ++ rest)).head?, c.isWord = false :=
      fun c head => CodePoint.isWord_of_isBlank (Rendering.head?_of_gap apart _ c head)
    obtain ⟨tokens, scanned, same⟩ := ih others ((p.after w).after g)
    refine ⟨Token.placed p (Token.wordKind w) w :: tokens, ?_, .cons ⟨rfl, value w⟩ same⟩
    rw [List.append_assoc, List.append_assoc, Token.scanFrom_word p word ends,
      Token.scanFrom_blank _ apart.1, scanned, Position.after_append, Position.after_append]
    rfl

end IsPhrase

end SqlConsole
