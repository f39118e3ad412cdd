import SqlConsole.Proofs.Token.Append

/-!
# Lines after a text

Scanning begins anew on a line of its own: the tokens of a text and of lines after it are those of
both, the latter further on by the lines and the code points of the text (`scan_lines`).
-/

namespace SqlConsole

def Position.further (lines places : Nat) (p : Position) : Position :=
  ⟨p.line + lines, p.column, p.offset + places⟩

def Token.further (lines places : Nat) (t : Token) : Token :=
  ⟨t.kind, t.value, t.line + lines, t.column, t.start + places, t.stop + places⟩

theorem Position.advance_further (lines places : Nat) (p : Position) (c : CodePoint) :
    (p.further lines places).advance c = (p.advance c).further lines places := by
  unfold advance
  split <;> simp only [further, Position.mk.injEq, true_and] <;> omega

theorem Position.after_newline (a : Text) :
    (start.after a).advance '\n' = start.further (1 + a.count (.char '\n')) (a.length + 1) := by
  rw [advance, if_pos rfl, line_after_start, offset_after_start, further]
  simp [start, Nat.add_comm]

namespace Token

theorem scanFrom_further (lines places : Nat) (p : Position) (skip : Nat) (t : Text) :
    scanFrom (p.further lines places) skip t =
      (scanFrom p skip t).map (further lines places) := by
  fun_induction scanFrom p skip t with
  | case1 => simp [scanFrom, further, Position.further]
  | case2 p skip c cs ih => rw [scanFrom, Position.advance_further, ih]
  | case3 p c cs found rest kindless ih =>
    rw [scanFrom, Position.advance_further, ih]
    simp only [found] at kindless
    simp only [kindless]
    rfl
  | case4 p c cs found rest kind lexed ih =>
    rw [scanFrom, Position.advance_further, ih]
    simp only [found] at lexed
    simp only [lexed, List.map_cons, further, Position.further, Nat.add_right_comm]
    rfl

/-- The tokens of a text that holds no stray code point, but for the last, and those of what stands
behind it on lines of its own. -/
theorem scan_lines {a : Text} (lexed : ∀ t ∈ scan a, t.kind ≠ .stray) (b : Text) :
    ∃ inner stop, scan a = inner ++ [stop] ∧ stop.kind = .stop ∧
      scan (a ++ "\n" ++ b) =
        inner ++ (scan b).map (further (1 + a.count (.char '\n')) (a.length + 1)) := by
  obtain ⟨inner, stop, scanned, ends, -⟩ := scanFrom_inner .start 0 a
  refine ⟨inner, stop, scanned, ends, ?_⟩
  have edge : IsEdge (.char '\n') := isEdge_of_isBlank (by decide)
  have newline : Text.AllBlank [.char '\n'] := by simp [Text.AllBlank]; decide
  calc scan (a ++ "\n" ++ b)
      = scanFrom .start 0 (a ++ .char '\n' :: b) := by
        rw [scan, List.append_assoc]
        rfl
    _ = (scan a).dropLast ++ scanFrom (Position.start.after a) 0 (.char '\n' :: b) :=
        scanFrom_append edge b .start (Nat.zero_le _) lexed (.inl rfl)
    _ = inner ++ scanFrom ((Position.start.after a).advance '\n') 0 b := by
        rw [scan, scanned, List.dropLast_concat]
        exact congrArg _ (scanFrom_blank (Position.start.after a) newline b)
    _ = inner ++ (scan b).map (further (1 + a.count (.char '\n')) (a.length + 1)) := by
        rw [Position.after_newline, scanFrom_further, scan]

/-- A quoted text over two lines and a comment, before another line. -/
theorem scan_lines_comment :
    ∃ inner stop, scan "'a\nb' --c" = inner ++ [stop] ∧ stop.kind = .stop ∧
      scan ("'a\nb' --c" ++ "\n" ++ " from t") =
        inner ++ [⟨.keyword .from, "from", 3, 2, 11, 15⟩, ⟨.identifier, "t", 3, 7, 16, 17⟩,
          ⟨.stop, "", 3, 8, 17, 17⟩] :=
  scan_lines (a := "'a\nb' --c") (by decide +kernel) " from t"

end Token

end SqlConsole
