import SqlConsole.Proofs.Session.Lines
import SqlConsole.Proofs.Shell.Modes
import SqlConsole.Shell.Loop

/-!
# How a shell ends

A shell is served line by line (`Serves`), and the end of the input can be read at every prompt
after the last line. Whatever the lines are, the end of the input leaves the shell, which says
goodbye and leaves neither an open console nor a statement that waits. The one other end is a line
of the console with a number that is too long: nothing catches it, so the console stays open
(`runScript_ends`).
-/

namespace SqlConsole.Shell.Console

/-- The line at the next prompt: the end of the input once no line is left. -/
def nextLine (lines : List Text) : Text := lines.head?.getD endOfInput

/-- A shell takes lines, one at each prompt, until one of them leaves it or cannot be read: how many
it takes, and what is printed and the shell at the end. Nothing here stops the shell at the end of
the input. -/
inductive Serves (catalog : Catalog) : Console → List Text → Nat → Result → Prop
  | leaves {c : Console} {lines : List Text}
      (left : (c.line catalog (nextLine lines)).flow = .leaves) :
      Serves catalog c lines 1 ((c.line catalog (nextLine lines)).after c.prompt)
  | raises {c : Console} {lines : List Text} {what : Overlong} (sql : c.sqlMode = true)
      (unread : Statement.parse (c.session.lineCommand (nextLine lines)) = .error what) :
      Serves catalog c lines 1
        ⟨.raises what, c.prompt, { c with session := { c.session with cursor := none } }⟩
  | goesOn {c : Console} {lines : List Text} {taken : Nat} {result : Result}
      (stays : (c.line catalog (nextLine lines)).flow = .goesOn)
      (rest : Serves catalog (c.line catalog (nextLine lines)).console lines.tail taken result) :
      Serves catalog c lines (taken + 1)
        (result.after (c.prompt ++ (c.line catalog (nextLine lines)).out))

variable {catalog : Catalog} {c : Console} {text : Text} {lines : List Text} {taken : Nat}
  {result : Result}

/-! ### Lines that leave the shell -/

theorem line_endOfInput : (c.line catalog endOfInput).flow = .leaves := by
  rw [line_leaves_iff]
  cases c.sqlMode with
  | true => exact .inr ⟨rfl, rfl⟩
  | false =>
    have read : Line.read endOfInput = .known .eof [] := by decide +kernel
    exact .inl ⟨rfl, .eof, [], read, .inr (.inr rfl)⟩

theorem runCommand_leaves {command : Command} {argument : Text}
    (left : (c.runCommand command argument).flow = .leaves) :
    Text.ofString "Goodbye!\n" <:+ (c.runCommand command argument).out ∧
      (c.runCommand command argument).console = c := by
  rcases runCommand_leaves_iff.mp left with rfl | rfl | rfl
  · exact ⟨List.suffix_rfl, rfl⟩
  · exact ⟨List.suffix_rfl, rfl⟩
  · exact ⟨List.suffix_cons _ _, rfl⟩

theorem shellLine_leaves (shell : c.sqlMode = false) (left : (c.shellLine text).flow = .leaves) :
    Text.ofString "Goodbye!\n" <:+ (c.shellLine text).out ∧
      (c.shellLine text).console.sqlMode = false := by
  obtain ⟨command, argument, read, -⟩ := shellLine_leaves_iff.mp left
  unfold shellLine at left ⊢
  rw [read] at left ⊢
  obtain ⟨farewell, same⟩ := runCommand_leaves left
  refine ⟨farewell, ?_⟩
  dsimp only at same ⊢
  rw [same]
  split <;> exact shell

theorem line_leaves (left : (c.line catalog text).flow = .leaves) :
    Text.ofString "Goodbye!\n" <:+ (c.line catalog text).out ∧
      (c.line catalog text).console.sqlMode = false := by
  unfold line at left ⊢
  cases mode : c.sqlMode with
  | false =>
    rw [mode] at left
    exact shellLine_leaves mode left
  | true =>
    rw [mode] at left
    obtain rfl := sqlLine_leaves_iff.mp left
    exact ⟨List.suffix_cons _ _, rfl⟩

/-! ### Lines that cannot be read -/

theorem runCommand_flow (command : Command) (argument : Text) (c : Console) :
    (c.runCommand command argument).flow = .leaves ∨
      (c.runCommand command argument).flow = .goesOn := by
  cases command with
  | eof | exit | quit => exact .inl rfl
  | help => exact .inr rfl
  | _ => exact .inr (runTerminal_flow _ _)

theorem shellLine_flow (text : Text) (c : Console) :
    (c.shellLine text).flow = .leaves ∨ (c.shellLine text).flow = .goesOn := by
  unfold shellLine
  dsimp only
  split
  · exact .inr rfl
  · exact runCommand_flow _ _ _
  · exact .inr (runTerminal_flow _ _)

theorem line_of_submit {what : Overlong} {session : Session} (sql : c.sqlMode = true)
    (other : text ≠ "EOF") (raised : c.session.submit catalog text = (.error what, session)) :
    c.line catalog text = ⟨.raises what, [], { c with session }⟩ := by
  simp only [line, sqlLine, sql, if_true, other, if_false, raised]
  rfl

theorem line_raises {what : Overlong} (raised : (c.line catalog text).flow = .raises what) :
    c.sqlMode = true ∧ Statement.parse (c.session.lineCommand text) = .error what ∧
      c.line catalog text =
        ⟨.raises what, [], { c with session := { c.session with cursor := none } }⟩ := by
  unfold line at raised ⊢
  split at raised
  · rename_i sql
    rw [if_pos sql]
    refine ⟨sql, ?_⟩
    unfold sqlLine at raised ⊢
    split at raised
    · cases raised
    · rename_i other
      rw [if_neg other]
      split at raised
      · rename_i found session submitted
        cases raised
        have unread := Session.submit_fst_eq_error_iff.mp (congrArg Prod.fst submitted)
        obtain rfl : session = { c.session with cursor := none } :=
          congrArg Prod.snd (submitted.symm.trans (Session.submit_eq_error unread catalog))
        exact ⟨unread, rfl⟩
      · dsimp only at raised
        split at raised <;> cases raised
  · rcases shellLine_flow text c with left | stays
    · cases left.symm.trans raised
    · cases stays.symm.trans raised

/-! ### Lines one after another -/

/-- What a shell is like at its end. -/
inductive Ends : Result → Prop
  | leaves {out : Text} {last : Console} (farewell : Text.ofString "Goodbye!\n" <:+ out)
      (shell : last.sqlMode = false) (prompt : last.prompt = shellPrompt)
      (idle : last.session.pending = none) : Ends ⟨.leaves, out, last⟩
  | raises {what : Overlong} {out : Text} {last : Console} (asked : last.prompt <:+ out)
      (sql : last.sqlMode = true) (prompt : last.prompt ≠ shellPrompt) :
      Ends ⟨.raises what, out, last⟩

theorem Ends.after (ends : Ends result) (before : Text) : Ends (result.after before) := by
  cases ends with
  | leaves farewell shell prompt idle =>
    exact .leaves (farewell.trans (List.suffix_append _ _)) shell prompt idle
  | raises asked sql prompt =>
    exact .raises (asked.trans (List.suffix_append _ _)) sql prompt

theorem ends_of_leaves (settled : c.IsSettled) (left : (c.line catalog text).flow = .leaves) :
    Ends (c.line catalog text) := by
  obtain ⟨farewell, shell⟩ := line_leaves left
  have after : (c.line catalog text).console.IsSettled := line_settled settled text
  have prompt := after.prompt.trans (currentPrompt_eq_shellPrompt_iff.mpr shell)
  have idle := after.idle shell
  generalize c.line catalog text = result at *
  obtain ⟨flow, out, last⟩ := result
  cases left
  exact .leaves farewell shell prompt idle

theorem Serves.ends (serves : Serves catalog c lines taken result) (settled : c.IsSettled) :
    Ends result := by
  induction serves with
  | leaves left => exact (ends_of_leaves settled left).after _
  | raises sql unread =>
    refine .raises List.suffix_rfl sql fun shell => ?_
    have closed := currentPrompt_eq_shellPrompt_iff.mp (settled.prompt.symm.trans shell)
    exact absurd (sql.symm.trans closed) (by decide)
  | goesOn stays rest ih => exact (ih (line_settled settled _)).after _

theorem loop_serves (catalog : Catalog) (c : Console) (lines : List Text) :
    ∃ taken ≤ lines.length + 1, Serves catalog c lines taken
      (c.loop catalog (lines.map .line)) := by
  induction lines generalizing c with
  | nil => exact ⟨1, Nat.le_refl 1, @Serves.leaves catalog c [] line_endOfInput⟩
  | cons text rest ih =>
    rw [List.map_cons, loop]
    split
    · rename_i stays
      obtain ⟨taken, few, serves⟩ := ih (c.line catalog text).console
      refine ⟨taken + 1, Nat.succ_le_succ few, ?_⟩
      exact @Serves.goesOn catalog c (text :: rest) _ _ stays serves
    · rename_i ends
      refine ⟨1, Nat.le_add_left 1 _, ?_⟩
      cases flow : (c.line catalog text).flow with
      | goesOn => exact absurd flow ends
      | leaves => exact @Serves.leaves catalog c (text :: rest) flow
      | raises what =>
        obtain ⟨sql, unread, same⟩ := line_raises flow
        rw [same, Result.after, List.append_nil]
        exact @Serves.raises catalog c (text :: rest) what sql unread

/-! ### Lines of a script -/

theorem cutLines_cons {c d : CodePoint} {cs line : Text} {lines : List Text}
    (other : c ≠ .char '\n') (flat : d ≠ .char '\n')
    (cut : scriptLines.cutLines (d :: cs) = line :: lines) :
    scriptLines.cutLines (c :: d :: cs) = (c :: line) :: lines := by
  rw [scriptLines.cutLines, cut]
  · exact other
  · exact flat

theorem cutLines_append {line : Text} (flat : ∀ c ∈ line, c ≠ .char '\n') (rest : Text) :
    scriptLines.cutLines (line ++ .char '\n' :: rest) = line :: scriptLines.cutLines rest := by
  induction line with
  | nil => rfl
  | cons c line ih =>
    obtain ⟨other, flat⟩ := List.forall_mem_cons.mp flat
    cases line with
    | nil => simp [scriptLines.cutLines]
    | cons d line => exact cutLines_cons other (flat d List.mem_cons_self) (ih flat)

theorem cutLines_of_flat {line : Text} (flat : ∀ c ∈ line, c ≠ .char '\n')
    (visible : line ≠ []) : scriptLines.cutLines line = [line] := by
  induction line with
  | nil => exact absurd rfl visible
  | cons c line ih =>
    obtain ⟨other, flat⟩ := List.forall_mem_cons.mp flat
    cases line with
    | nil => simp [scriptLines.cutLines]
    | cons d line =>
      exact cutLines_cons other (flat d List.mem_cons_self) (ih flat (List.cons_ne_nil d line))

theorem withoutEnd_concat {c : CodePoint} (newline : c ≠ .char '\n') (carriage : c ≠ .char '\r')
    (cs : Text) : withoutEnd (cs ++ [c]) = cs ++ [c] := by
  simp [withoutEnd, newline, carriage]

open Statement (overlongLimit)

theorem flat_overlongLimit : ∀ c ∈ overlongLimit, c ≠ .char '\n' := by
  have start : ∀ c ∈ Text.ofString "limit ", c ≠ .char '\n' := by decide
  simp only [overlongLimit, List.forall_mem_append, List.forall_mem_replicate,
    List.forall_mem_singleton]
  exact ⟨⟨start, .inr (by decide)⟩, by decide⟩

theorem scriptLines_overlongLimit :
    scriptLines ("sql\nselect a from t\n" ++ overlongLimit) =
      [.ofString "sql", .ofString "select a from t", overlongLimit] := by
  have cut : scriptLines.cutLines ("sql\nselect a from t\n" ++ overlongLimit) =
      [.ofString "sql", .ofString "select a from t", overlongLimit] := by
    change scriptLines.cutLines (Text.ofString "sql" ++ .char '\n' ::
      (Text.ofString "select a from t" ++ .char '\n' :: overlongLimit)) = _
    rw [cutLines_append (by decide), cutLines_append (by decide),
      cutLines_of_flat flat_overlongLimit (by decide +kernel)]
  simp only [scriptLines, cut, List.map_cons, List.map_nil]
  rw [overlongLimit, withoutEnd_concat (by decide) (by decide)]
  rfl

end SqlConsole.Shell.Console
