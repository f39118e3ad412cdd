import SqlConsole.Proofs.Text.Class
import SqlConsole.Proofs.Text.Trim
import SqlConsole.Suggestion.Context

/-!
# Scanning for references

What the scan for the references after an introducing word does with the pieces of a text that are
separated by blanks. It passes over a piece that is not the word (`referencesAfter_piece`). At the
word it gives the reference behind it, and goes on behind what it has read for that
(`referencesAfter_found`).
-/

namespace SqlConsole.Suggestion

variable {word w rest cs : Text} {before : Option CodePoint}

def IsRun (w : Text) : Prop := w ≠ [] ∧ ∀ c ∈ w, c.isWord = true

instance (w : Text) : Decidable (IsRun w) := inferInstanceAs (Decidable (_ ∧ _))

def IsEdge (rest : Text) : Prop := ∀ c ∈ rest.head?, c.isBlank = true

theorem IsEdge.nil : IsEdge [] := nofun

theorem IsEdge.space (cs : Text) : IsEdge (' ' :: cs) := by
  rintro c ⟨⟩
  decide

/-! ### Words and what follows them -/

theorem span_append {p : CodePoint → Bool} (all : ∀ c ∈ w, p c = true)
    (stop : ∀ c ∈ rest.head?, p c = false) :
    (w ++ rest).takeWhile p = w ∧ (w ++ rest).dropWhile p = rest := by
  rw [List.takeWhile_append_of_pos all, List.dropWhile_append_of_pos all]
  cases rest with
  | nil => simp
  | cons c cs => simp [stop c rfl]

theorem wordRun?_append (run : IsRun w) (edge : IsEdge rest) :
    wordRun? (w ++ rest) = some (w, rest) := by
  obtain ⟨taken, left⟩ :=
    span_append run.2 fun c head => CodePoint.isWord_of_isBlank (edge c head)
  obtain ⟨c, cs, rfl⟩ := List.exists_cons_of_ne_nil run.1
  rw [wordRun?, taken, left]

theorem afterBlanks?_eq_some_iff :
    afterBlanks? cs = some rest ↔
      cs.head?.any CodePoint.isBlank = true ∧ cs.dropWhile CodePoint.isBlank = rest := by
  cases cs with
  | nil => simp [afterBlanks?]
  | cons c cs =>
    by_cases blank : c.isBlank = true
    · simp [afterBlanks?, blank, Text.trimLeft]
    · simp [afterBlanks?, blank]

theorem afterWord?_eq_some_iff :
    afterWord? word before cs = some rest ↔
      before.any CodePoint.isWord = false ∧ word ++ rest = cs := by
  unfold afterWord?
  split
  · rename_i found
    simp only [Bool.and_eq_true, Bool.not_eq_true', List.isPrefixOf_iff_prefix] at found
    obtain ⟨edge, tail, rfl⟩ := found
    simp [edge, eq_comm]
  · rename_i missing
    simp only [Bool.and_eq_true, Bool.not_eq_true', List.isPrefixOf_iff_prefix] at missing
    constructor
    · nofun
    · rintro ⟨edge, rfl⟩
      exact absurd ⟨edge, List.prefix_append word rest⟩ missing

theorem afterBlanks?_space (solid : ∀ c ∈ cs.head?, c.isBlank = false) :
    afterBlanks? (' ' :: cs) = some cs := by
  have blank : CodePoint.isBlank ' ' = true := by decide
  rw [afterBlanks?, if_pos blank, Text.trimLeft_eq_self solid]

theorem afterBlanks?_of_solid {c : CodePoint} (solid : c.isBlank = false) :
    afterBlanks? (c :: cs) = none := by
  simp [afterBlanks?, solid]

theorem IsRun.solid_append (run : IsRun w) (rest : Text) :
    ∀ c ∈ (w ++ rest).head?, c.isBlank = false := by
  obtain ⟨c, cs, rfl⟩ := List.exists_cons_of_ne_nil run.1
  rintro d ⟨⟩
  exact CodePoint.isBlank_of_isWord (run.2 c (by simp))

/-- Nothing is found behind a word in front of a piece other than the word, where what is looked for
starts with a blank. -/
theorem afterWord?_bind_piece {α : Type} {find : Text → Option α} (piece : Text)
    (blanks : ∀ c cs, c.isBlank = false → find (c :: cs) = none) (run : IsRun word)
    (solid : ∀ c ∈ piece, c.isBlank = false) (edge : IsEdge rest)
    (inert : piece = word → before.any CodePoint.isWord = true ∨ find rest = none) :
    (afterWord? word before (piece ++ rest)).bind find = none := by
  refine Option.bind_eq_none_iff.mpr fun read found => ?_
  obtain ⟨boundary, whole⟩ := afterWord?_eq_some_iff.mp found
  have whenSame : piece = word → find rest = none := fun same =>
    (inert same).resolve_left (by simp [boundary])
  rcases List.append_eq_append_iff.mp whole with ⟨more, rfl, rfl⟩ | ⟨more, same, rfl⟩
  · cases more with
    | nil => exact whenSame (List.append_nil word)
    | cons c more => exact blanks c _ (solid c (by simp))
  · -- The word has no blank, so it does not reach beyond the piece.
    cases more with
    | nil => exact whenSame (by rw [same, List.append_nil])
    | cons c more =>
      have letter := run.2 c (by simp [same])
      rw [CodePoint.isWord_of_isBlank (edge c rfl)] at letter
      cases letter

theorem tableAlias?_word (run : IsRun w) (other : w ≠ "as") (edge : IsEdge rest) :
    tableAlias? (' ' :: (w ++ rest)) = some (w, rest) := by
  have unmarked : (afterWord? "as" none (w ++ rest)).bind afterBlanks? = none :=
    afterWord?_bind_piece w (fun _ _ => afterBlanks?_of_solid) (by decide)
      (fun c member => CodePoint.isBlank_of_isWord (run.2 c member)) edge
      (fun same => absurd same other)
  have read := wordRun?_append run edge
  simp only [tableAlias?, afterBlanks?_space (run.solid_append rest), Option.bind_eq_bind,
    Option.bind_some, ← Option.bind_assoc, unmarked, Option.bind_none, read]

theorem tableAlias?_marked (run : IsRun w) (edge : IsEdge rest) :
    tableAlias? (Text.ofString " as " ++ (w ++ rest)) = some (w, rest) := by
  have front : afterBlanks? (Text.ofString " as " ++ (w ++ rest)) =
      some (Text.ofString "as " ++ (w ++ rest)) := rfl
  have marked : afterWord? "as" none (Text.ofString "as " ++ (w ++ rest)) =
      some (.char ' ' :: (w ++ rest)) := rfl
  simp only [tableAlias?, front, Option.bind_eq_bind, Option.bind_some, marked,
    afterBlanks?_space (run.solid_append rest), wordRun?_append run edge]

/-! ### References behind an introducing word -/

theorem reference?_append (run : IsRun w) (edge : IsEdge rest) :
    reference? (' ' :: (w ++ rest)) =
      match tableAlias? rest with
      | some (name, rest) => some (⟨w, some name⟩, rest)
      | none => some (⟨w, none⟩, rest) := by
  have read := wordRun?_append run edge
  cases called : tableAlias? rest <;>
    simp [reference?, afterBlanks?_space (run.solid_append rest), read, called]

theorem reference?_of_solid {c : CodePoint} (solid : c.isBlank = false) :
    reference? (c :: cs) = none := by
  simp [reference?, afterBlanks?_of_solid solid]

/-! ### The scan -/

theorem referencesFrom_edge (run : IsRun word) (edge : IsEdge rest) (before : Option CodePoint) :
    referencesFrom word before 0 rest = referencesAfter word rest := by
  cases rest with
  | nil => rfl
  | cons c cs =>
    have missing : ∀ before, (afterWord? word before (c :: cs)).bind reference? = none := by
      intro before
      exact afterWord?_bind_piece [] (fun _ _ => reference?_of_solid) run nofun edge
        (fun same => absurd same.symm run.1)
    simp only [referencesAfter, referencesFrom, missing]

theorem referencesFrom_skip (run : IsRun word) (edge : IsEdge rest) (taken : Text)
    (before : Option CodePoint) :
    referencesFrom word before taken.length (taken ++ rest) = referencesAfter word rest := by
  induction taken generalizing before with
  | nil => exact referencesFrom_edge run edge before
  | cons c taken ih => exact ih (some c)

theorem referencesFrom_piece (run : IsRun word) {piece : Text} (edge : IsEdge rest)
    (solid : ∀ c ∈ piece, c.isBlank = false)
    (inert : ∀ front, piece = front ++ word →
      (front.getLast?.or before).any CodePoint.isWord = true ∨ reference? rest = none) :
    referencesFrom word before 0 (piece ++ rest) = referencesAfter word rest := by
  induction piece generalizing before with
  | nil => exact referencesFrom_edge run edge before
  | cons c piece ih =>
    have missing : (afterWord? word before (c :: piece ++ rest)).bind reference? = none := by
      refine afterWord?_bind_piece (c :: piece) (fun _ _ => reference?_of_solid) run solid edge
        fun same => ?_
      have boundary := inert [] same
      cases before <;> simpa using boundary
    simp only [List.cons_append] at missing ⊢
    simp only [referencesFrom, missing]
    refine ih (fun d member => solid d (List.mem_cons_of_mem c member)) fun front same => ?_
    have boundary := inert (c :: front) (by rw [same, List.cons_append])
    rw [List.getLast?_cons, Option.some_or] at boundary
    cases last : front.getLast? <;> simpa [last] using boundary

theorem referencesAfter_space (run : IsRun word) (cs : Text) :
    referencesAfter word (' ' :: cs) = referencesAfter word cs := by
  have missing : (afterWord? word none (' ' :: cs)).bind reference? = none :=
    afterWord?_bind_piece [] (fun _ _ => reference?_of_solid) run nofun (.space cs)
      (fun same => absurd same.symm run.1)
  have apart : CodePoint.isWord ' ' = false := by decide
  simp only [referencesAfter, referencesFrom, missing]
  cases cs with
  | nil => rfl
  | cons c cs => simp only [referencesFrom, afterWord?, Option.any_some, Option.any_none, apart]

theorem referencesAfter_piece (run : IsRun word) {piece : Text}
    (solid : ∀ c ∈ piece, c.isBlank = false) (other : lastWord piece.reverse ≠ word)
    (edge : IsEdge rest) :
    referencesAfter word (' ' :: (piece ++ rest)) = referencesAfter word rest := by
  rw [referencesAfter_space run]
  refine referencesFrom_piece run edge solid fun front same => .inl ?_
  by_contra boundary
  have stop : front.reverse.takeWhile CodePoint.isWord = [] := by
    cases last : front.reverse with
    | nil => rfl
    | cons c cs =>
      have letter : ¬c.isWord = true := by
        simpa [List.getLast?_eq_head?_reverse, last] using boundary
      rw [List.takeWhile_cons_of_neg letter]
  have letters : ∀ c ∈ word.reverse, c.isWord = true :=
    fun c member => run.2 c (List.mem_reverse.mp member)
  refine other ?_
  rw [same, List.reverse_append, lastWord, List.takeWhile_append_of_pos letters, stop,
    List.append_nil, List.reverse_reverse]

theorem referencesAfter_word (run : IsRun word) (other : IsRun w) (unlike : w ≠ word)
    (edge : IsEdge rest) :
    referencesAfter word (' ' :: (w ++ rest)) = referencesAfter word rest := by
  have letters : ∀ c ∈ w.reverse, c.isWord = true :=
    fun c member => other.2 c (List.mem_reverse.mp member)
  have whole : lastWord w.reverse = w := by
    rw [lastWord, ← List.append_nil w.reverse, List.takeWhile_append_of_pos letters]
    simp
  exact referencesAfter_piece run (fun c member => CodePoint.isBlank_of_isWord (other.2 c member))
    (whole.symm ▸ unlike) edge

theorem afterWord?_append (word cs : Text) : afterWord? word none (word ++ cs) = some cs := by
  have front : word.isPrefixOf (word ++ cs) = true := by simp
  simp [afterWord?, front]

theorem head?_referencesAfter (run : IsRun word) {reference : Reference}
    (read : reference? cs = some (reference, rest)) :
    (referencesAfter word (' ' :: (word ++ cs))).head? = some reference := by
  rw [referencesAfter_space run]
  have after := afterWord?_append word cs
  obtain ⟨c, letters, rfl⟩ := List.exists_cons_of_ne_nil run.1
  rw [List.cons_append] at after ⊢
  simp only [referencesAfter, referencesFrom, after, Option.bind_some, read, List.head?_cons]

theorem referencesAfter_found (run : IsRun word) (taken : Text) {reference : Reference}
    (edge : IsEdge rest) (read : reference? (taken ++ rest) = some (reference, rest)) :
    referencesAfter word (' ' :: (word ++ (taken ++ rest))) =
      reference :: referencesAfter word rest := by
  rw [referencesAfter_space run]
  have after := afterWord?_append word (taken ++ rest)
  obtain ⟨c, cs, rfl⟩ := List.exists_cons_of_ne_nil run.1
  have left : (cs ++ taken ++ rest).length - rest.length = (cs ++ taken).length := by
    simp only [List.length_append]
    omega
  rw [List.cons_append, ← List.append_assoc cs] at after ⊢
  rw [referencesAfter]
  simp only [referencesFrom, after, Option.bind_some, read, left]
  rw [referencesFrom_skip run edge]

theorem referencesAfter_aliased (run : IsRun word) {table name : Text} (between : Text)
    (runTable : IsRun table) (gap : IsEdge (between ++ rest)) (edge : IsEdge rest)
    (named : tableAlias? (between ++ rest) = some (name, rest)) :
    referencesAfter word (' ' :: (word ++ .char ' ' :: (table ++ (between ++ rest)))) =
      ⟨table, some name⟩ :: referencesAfter word rest := by
  have read := reference?_append runTable gap
  rw [named] at read
  have found := referencesAfter_found run (' ' :: (table ++ between)) edge
    (by simpa only [List.cons_append, List.append_assoc] using read)
  simpa only [List.cons_append, List.append_assoc] using found

end SqlConsole.Suggestion
