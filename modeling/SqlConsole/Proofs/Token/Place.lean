import SqlConsole.Proofs.Token.Lexeme
import Mathlib.Data.List.Induction

/-!
# Places in a text

The place after a text is told by its newlines alone: there is a line for each of them and one more
(`line_after_start`), and columns are counted from the last of them (`column_after_start`).
-/

namespace SqlConsole

namespace Text

def lastNewline (t : Text) : Int :=
  match t.zipIdx.reverse.find? fun (c, _) => c = '\n' with
  | some (_, offset) => offset
  | none => -1

theorem lastNewline_concat (t : Text) (c : CodePoint) :
    lastNewline (t ++ [c]) = if c = '\n' then (t.length : Int) else lastNewline t := by
  have last : (t ++ [c]).zipIdx.reverse = (c, t.length) :: t.zipIdx.reverse := by
    simp [List.zipIdx_append]
  unfold lastNewline
  rw [last, List.find?_cons]
  by_cases newline : c = '\n' <;> simp [newline]

end Text

namespace Position

theorem after_concat (p : Position) (t : Text) (c : CodePoint) :
    p.after (t ++ [c]) = (p.after t).advance c := after_append p t [c]

theorem line_after_start (t : Text) : (start.after t).line = 1 + t.count (.char '\n') := by
  induction t using List.reverseRecOn with
  | nil => rfl
  | append_singleton t c ih =>
    rw [after_concat, List.count_append, List.count_singleton]
    unfold advance
    by_cases newline : c = '\n'
    · rw [if_pos newline, newline]
      simp only [ih, beq_self_eq_true, if_true]
      omega
    · rw [if_neg newline]
      simp only [ih, beq_iff_eq, if_neg newline]
      omega

theorem column_after_start (t : Text) :
    ((start.after t).column : Int) = t.length - t.lastNewline := by
  induction t using List.reverseRecOn with
  | nil => rfl
  | append_singleton t c ih =>
    rw [after_concat, Text.lastNewline_concat, List.length_append, List.length_singleton]
    unfold advance
    by_cases newline : c = '\n'
    · simp only [if_pos newline]
      omega
    · simp only [if_neg newline]
      omega

end Position

end SqlConsole
