import SqlConsole.Layout.Listing

/-!
# Lines and their widths

A text is cut into lines at its newlines, and lines that are joined by newlines or end in one each
are cut apart again (`lines_intercalate`, `lines_unlines`). The width of a line is that of its parts
together (`displayWidth_append`), so spaces bring a text to any width that it does not exceed
(`displayWidth_padTo`).
-/

namespace SqlConsole

/-! ### Lines -/

namespace Text

def IsLine (t : Text) : Prop := .char '\n' ∉ t

instance (t : Text) : Decidable t.IsLine := inferInstanceAs (Decidable (.char '\n' ∉ t))

/-- The lines of a text: what its newlines end, and what is left behind the last one, if
anything. -/
def lines (t : Text) : List Text :=
  let parts := t.cutAt '\n'
  if parts.getLast? = some [] then parts.dropLast else parts

theorem isLine_append {s t : Text} : IsLine (s ++ t) ↔ IsLine s ∧ IsLine t := by
  simp [IsLine]

theorem isLine_intercalate {gap : Text} {cells : List Text} (between : IsLine gap)
    (each : ∀ cell ∈ cells, IsLine cell) : IsLine (List.intercalate gap cells) := by
  induction cells with
  | nil => exact List.not_mem_nil
  | cons cell cells ih =>
    obtain ⟨first, others⟩ := List.forall_mem_cons.mp each
    cases cells with
    | nil => rwa [List.intercalate_singleton]
    | cons next cells =>
      rw [List.intercalate_cons_cons]
      exact isLine_append.mpr ⟨isLine_append.mpr ⟨first, between⟩, ih others⟩

theorem cutAt_eq_splitOn (mark : CodePoint) (t : Text) : t.cutAt mark = t.splitOn mark := by
  induction t with
  | nil => rfl
  | cons c cs ih =>
    rw [List.splitOn_eq_splitOnP, List.splitOnP_cons_eq_if_modifyHead, ← List.splitOn_eq_splitOnP,
      ← ih, cutAt]
    simp only [beq_iff_eq]
    refine ite_congr rfl (fun _ => rfl) fun _ => ?_
    cases present : cutAt mark cs with
    | nil =>
      rw [ih] at present
      exact absurd present (List.splitOn_ne_nil _ _)
    | cons part parts => rfl

theorem cutAt_intercalate {lines : List Text} (present : lines ≠ [])
    (each : ∀ line ∈ lines, IsLine line) :
    Text.cutAt '\n' (List.intercalate "\n" lines) = lines := by
  rw [cutAt_eq_splitOn]
  exact List.splitOn_intercalate _ each present

theorem lines_intercalate {lines : List Text} {last : Text} (shown : last ≠ [])
    (each : ∀ line ∈ lines ++ [last], IsLine line) :
    Text.lines (List.intercalate "\n" (lines ++ [last])) = lines ++ [last] := by
  unfold Text.lines
  rw [cutAt_intercalate (by simp) each]
  simp [shown]

end Text

namespace Layout

open Text (IsLine isLine_append)

theorem unlines_eq_intercalate (lines : List Text) :
    unlines lines = List.intercalate "\n" (lines ++ [[]]) := by
  induction lines with
  | nil => rfl
  | cons line lines ih =>
    obtain ⟨next, rest, behind⟩ := List.exists_cons_of_ne_nil
      (show lines ++ [[]] ≠ [] by simp)
    rw [unlines, List.flatMap_cons, ← unlines, ih, List.cons_append, behind,
      List.intercalate_cons_cons]

theorem lines_unlines {lines : List Text} (each : ∀ line ∈ lines, IsLine line) :
    (unlines lines).lines = lines := by
  have parts : ∀ line ∈ lines ++ [[]], IsLine line := by
    simpa [or_imp, forall_and, IsLine] using each
  rw [unlines_eq_intercalate, Text.lines, Text.cutAt_intercalate (by simp) parts]
  simp

theorem intercalate_append_newline {lines : List Text} (present : lines ≠ []) :
    List.intercalate "\n" lines ++ "\n" = unlines lines := by
  induction lines with
  | nil => exact absurd rfl present
  | cons line lines ih =>
    cases lines with
    | nil => simp [unlines]
    | cons next lines =>
      rw [List.intercalate_cons_cons, List.append_assoc, ih (by simp)]
      rfl

/-! ### Widths -/

@[simp]
theorem displayWidth_append (s t : Text) :
    displayWidth (s ++ t) = displayWidth s + displayWidth t := by
  induction s with
  | nil => exact (Nat.zero_add _).symm
  | cons c s ih => simp only [List.cons_append, displayWidth, ih, Nat.add_assoc]

def IsNarrow (t : Text) : Prop := ∀ c ∈ t, codeWidth c = 1

instance (t : Text) : Decidable (IsNarrow t) :=
  inferInstanceAs (Decidable (∀ c ∈ t, codeWidth c = 1))

theorem IsNarrow.displayWidth_eq {t : Text} (narrow : IsNarrow t) : displayWidth t = t.length := by
  induction t with
  | nil => rfl
  | cons c t ih =>
    obtain ⟨first, others⟩ := List.forall_mem_cons.mp narrow
    rw [displayWidth, first, ih others, List.length_cons, Nat.add_comm]

theorem isNarrow_spaces (n : Nat) : IsNarrow (spaces n) := by
  intro c member
  rw [List.eq_of_mem_replicate member]
  decide

theorem isNarrow_hyphens (n : Nat) : IsNarrow (hyphens n) := by
  intro c member
  rw [List.eq_of_mem_replicate member]
  decide

@[simp]
theorem displayWidth_spaces (n : Nat) : displayWidth (spaces n) = n :=
  (isNarrow_spaces n).displayWidth_eq.trans List.length_replicate

@[simp]
theorem displayWidth_hyphens (n : Nat) : displayWidth (hyphens n) = n :=
  (isNarrow_hyphens n).displayWidth_eq.trans List.length_replicate

theorem displayWidth_padTo {t : Text} {width : Nat} (fits : displayWidth t ≤ width) :
    displayWidth (padTo t width) = width := by
  rw [padTo, displayWidth_append, displayWidth_spaces]
  omega

theorem isLine_spaces (n : Nat) : IsLine (spaces n) := by
  intro member
  exact absurd (List.eq_of_mem_replicate member) (by decide)

theorem isLine_hyphens (n : Nat) : IsLine (hyphens n) := by
  intro member
  exact absurd (List.eq_of_mem_replicate member) (by decide)

end Layout

end SqlConsole
