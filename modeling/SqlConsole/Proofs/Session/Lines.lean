import SqlConsole.Proofs.Session.Consistency

/-!
# Statements over several lines

Where a statement is cut into lines makes no difference (`run_lines`): no line but the last is
answered, and the last one is answered as the whole statement in one line would be.
-/

namespace SqlConsole

def Text.unlines (lines : List Text) : Text := List.intercalate "\n" lines

theorem Text.unlines_merge (line next : Text) (rest : List Text) :
    unlines (line :: next :: rest) = unlines ((line ++ "\n" ++ next) :: rest) := by
  cases rest <;> simp [unlines, List.intercalate]

theorem Text.unlines_concat (first : Text) (rest : List Text) (last : Text) :
    unlines (first :: (rest ++ [last])) = unlines (first :: rest) ++ "\n" ++ last := by
  induction rest generalizing first with
  | nil => simp [unlines, List.intercalate]
  | cons next rest ih => rw [List.cons_append, unlines_merge, unlines_merge, ih]

namespace Session

variable {catalog : Catalog} {s : Session}

open Statement (IsUnfinished)

/-! ### One line -/

theorem submit_unfinished_line {text line : Text} (waiting : s.pending = some text)
    (unfinished : IsUnfinished text) (plain : line.trim.head? ≠ some (.char '\\'))
    (unended : line.trim.getLast? ≠ some (.char ';')) :
    s.submit catalog line =
      (.ok none, { s with cursor := none, pending := some (text ++ "\n" ++ line) }) := by
  have bare : line.trim ≠ ";" := by
    intro same
    exact unended (by rw [same]; rfl)
  rw [submit_waiting waiting plain, if_neg bare,
    submitCommand_unfinished (unfinished.append_line unended)]

/-! ### All lines -/

def waitingFor (text : Text) (s : Session) : Session :=
  { s with cursor := none, pending := some text }

theorem run_waiting (catalog : Catalog) (s : Session) {text : Text}
    (unfinished : IsUnfinished text) (middle : List Text)
    (plain : ∀ line ∈ middle, line.trim.head? ≠ some (.char '\\'))
    (unended : ∀ line ∈ middle, line.trim.getLast? ≠ some (.char ';')) (rest : List Action) :
    IsUnfinished (Text.unlines (text :: middle)) ∧
      ∃ waiting : List Session,
        run catalog (s.waitingFor text) (middle.map .submit ++ rest) =
          waiting.map (Reply.text none, ·) ++
            run catalog (s.waitingFor (Text.unlines (text :: middle))) rest := by
  induction middle generalizing text with
  | nil =>
    have single : Text.unlines [text] = text := by simp [Text.unlines, List.intercalate]
    rw [single]
    exact ⟨unfinished, [], rfl⟩
  | cons line middle ih =>
    have longer := unfinished.append_line (unended line List.mem_cons_self)
    obtain ⟨whole, waiting, same⟩ := ih longer
      (fun line member => plain line (List.mem_cons_of_mem _ member))
      (fun line member => unended line (List.mem_cons_of_mem _ member))
    rw [Text.unlines_merge]
    refine ⟨whole, s.waitingFor (text ++ "\n" ++ line) :: waiting, ?_⟩
    have stepped : (s.waitingFor text).submit catalog line =
        (.ok none, s.waitingFor (text ++ "\n" ++ line)) :=
      submit_unfinished_line rfl unfinished (plain line List.mem_cons_self)
        (unended line List.mem_cons_self)
    simp only [List.map_cons, List.cons_append, run, step, stepped, Reply.ofSubmit, same]

def finishedBy (text line : Text) : Text :=
  if line.trim = ";" then text ++ ";" else text ++ "\n" ++ line

theorem finishedBy_head? {text line : Text} (unfinished : IsUnfinished text) :
    (finishedBy text line).trim.head? ≠ some (.char '\\') := by
  unfold finishedBy
  split
  · rw [unfinished.head?_append]
    exact unfinished.no_backslash
  · rw [List.append_assoc, unfinished.head?_append]
    exact unfinished.no_backslash

theorem submit_last (catalog : Catalog) {text line : Text} (idle : s.pending = none)
    (unfinished : IsUnfinished text) (plain : line.trim.head? ≠ some (.char '\\')) :
    (s.waitingFor text).submit catalog line =
        submitCommand catalog (finishedBy text line) (s.waitingFor text) ∧
      s.submit catalog (finishedBy text line) =
        submitCommand catalog (finishedBy text line) { s with cursor := none } :=
  ⟨submit_waiting rfl plain, submit_idle idle (finishedBy_head? unfinished)⟩

theorem submitCommand_finished (catalog : Catalog) {text line : Text}
    (unfinished : IsUnfinished text) (ended : line.trim.getLast? = some (.char ';'))
    (readable : ∀ what, Statement.parse (finishedBy text line) ≠ .error what) :
    submitCommand catalog (finishedBy text line) (s.waitingFor text) =
      submitCommand catalog (finishedBy text line) { s with cursor := none } := by
  obtain ⟨x, added, last⟩ := exists_commandOf (s := s.waitingFor text) rfl ended
  change finishedBy text line = text ++ x at added
  match read : Statement.parse (finishedBy text line) with
  | .ok none => exact absurd (added ▸ read) (unfinished.parse_append_ne_none last)
  | .ok (some statement) =>
    rw [submitCommand_of_parse read, submitCommand_of_parse read]
    rfl
  | .error what => exact absurd read (readable what)

open Statement (overlongLimit)

theorem submit_overlongLimit (catalog : Catalog) (waiting : s.pending = some "select a from t") :
    s.submit catalog overlongLimit = (.error (.numeral 4301), { s with cursor := none }) := by
  have plain : overlongLimit.trim.head? ≠ some (.char '\\') := by decide +kernel
  have bare : overlongLimit.trim ≠ ";" := by decide +kernel
  rw [submit_waiting waiting plain, if_neg bare]
  exact submitCommand_of_parse_error Statement.parse_overlongLimit

end Session

end SqlConsole
