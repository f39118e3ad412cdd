import SqlConsole.Value.Comparison
import Mathlib.Data.List.Forall2

/-!
# What patterns match

The search for a match of a pattern finds the instances of the pattern (`Like.IsInstance`), and
these with a newline behind them (`Like.matchesText_iff`). So it finds just the instances among the
texts that do not end in a newline (`Like.matchesText_iff_isInstance`), and a pattern without a
percent sign gives the length of a cell but for such a newline (`Value.satisfies_like_plain`).
-/

namespace SqlConsole

theorem Regex.Atom.run_eq_true_iff {atom : Atom} {test : Bool → Text → Bool} {atStart : Bool}
    {text : Text} :
    atom.run test atStart text = true ↔ ∃ taken rest, text = taken ++ rest ∧
      (∀ c ∈ taken, atom.takes c = true) ∧ test (atStart && taken.isEmpty) rest = true := by
  induction text generalizing atStart with
  | nil =>
    constructor
    · intro passes
      exact ⟨[], [], rfl, List.forall_mem_nil _, by simpa [run] using passes⟩
    · rintro ⟨taken, rest, same, -, passes⟩
      obtain ⟨rfl, rfl⟩ := List.append_eq_nil_iff.mp same.symm
      simpa [run] using passes
  | cons c text ih =>
    rw [run, Bool.or_eq_true, Bool.and_eq_true, ih]
    constructor
    · rintro (⟨first, taken, rest, rfl, others, passes⟩ | passes)
      · exact ⟨c :: taken, rest, rfl, List.forall_mem_cons.mpr ⟨first, others⟩, by simpa using passes⟩
      · exact ⟨[], c :: text, rfl, List.forall_mem_nil _, by simpa using passes⟩
    · rintro ⟨_ | ⟨d, taken⟩, rest, same, each, passes⟩
      · rw [List.nil_append] at same
        exact .inr (by simpa [same] using passes)
      · obtain ⟨rfl, rfl⟩ := List.cons.inj same
        obtain ⟨first, others⟩ := List.forall_mem_cons.mp each
        exact .inl ⟨first, taken, rest, rfl, others, by simpa using passes⟩

namespace Like

variable {pattern text : Text}

/-! ### Instances -/

/-- The texts that a pattern stands for. -/
inductive IsInstance : Text → Text → Prop
  | nil : IsInstance [] []
  | run {pattern text : Text} (skipped : Text) (rest : IsInstance pattern text) :
      IsInstance (.char '%' :: pattern) (skipped ++ text)
  | single {pattern text : Text} (c : CodePoint) (rest : IsInstance pattern text) :
      IsInstance (.char '_' :: pattern) (c :: text)
  | letter {pattern text : Text} {p c : CodePoint} (noRun : p ≠ .char '%') (noSingle : p ≠ .char '_')
      (same : p.sameLetter c = true) (rest : IsInstance pattern text) :
      IsInstance (p :: pattern) (c :: text)

theorem isInstance_run_iff :
    IsInstance (.char '%' :: pattern) text ↔
      ∃ skipped rest, text = skipped ++ rest ∧ IsInstance pattern rest := by
  constructor
  · rintro (_ | ⟨skipped, rest⟩ | _ | ⟨noRun, -, -, -⟩)
    · exact ⟨skipped, _, rfl, rest⟩
    · exact absurd rfl noRun
  · rintro ⟨skipped, rest, rfl, found⟩
    exact .run skipped found

theorem step_of_ne {p : CodePoint} (noRun : p ≠ .char '%') :
    ∃ atom, step p = .one atom ∧ ∀ c, atom.takes c = true ↔ p = .char '_' ∨ p.sameLetter c = true := by
  unfold step
  rw [if_neg noRun]
  split
  · rename_i single
    exact ⟨.any, rfl, fun c => by simp [Regex.Atom.takes, single]⟩
  · rename_i noSingle
    exact ⟨.letter p, rfl, fun c => by simp [Regex.Atom.takes, noSingle]⟩

theorem isInstance_one_iff {p : CodePoint} (noRun : p ≠ .char '%') :
    IsInstance (p :: pattern) text ↔ ∃ c rest, text = c :: rest ∧
      (p = .char '_' ∨ p.sameLetter c = true) ∧ IsInstance pattern rest := by
  constructor
  · rintro (_ | _ | ⟨c, rest⟩ | ⟨-, -, same, rest⟩)
    · exact absurd rfl noRun
    · exact ⟨c, _, rfl, .inl rfl, rest⟩
    · exact ⟨_, _, rfl, .inr same, rest⟩
  · rintro ⟨c, rest, rfl, fits, found⟩
    by_cases single : p = .char '_'
    · subst single
      exact .single c found
    · exact .letter noRun single (fits.resolve_left single) found

/-! ### Matching -/

/-- Whether a text is a body, or a body with a newline behind it. -/
def IsUpToNewline (body text : Text) : Prop := text = body ∨ text = body ++ "\n"

theorem isUpToNewline_append_iff (front : Text) {body : Text} :
    IsUpToNewline (front ++ body) text ↔ ∃ rest, text = front ++ rest ∧ IsUpToNewline body rest := by
  constructor
  · rintro (rfl | rfl)
    · exact ⟨body, rfl, .inl rfl⟩
    · exact ⟨body ++ "\n", List.append_assoc _ _ _, .inr rfl⟩
  · rintro ⟨rest, rfl, rfl | rfl⟩
    · exact .inl rfl
    · exact .inr (List.append_assoc _ _ _).symm

theorem isUpToNewline_cons_iff {c : CodePoint} {body : Text} :
    IsUpToNewline (c :: body) text ↔ ∃ rest, text = c :: rest ∧ IsUpToNewline body rest :=
  isUpToNewline_append_iff [c]

theorem leads_steps_iff {atStart : Bool} :
    Regex.leads (pattern.map step ++ [.finish]) atStart text = true ↔
      ∃ body, IsInstance pattern body ∧ IsUpToNewline body text := by
  induction pattern generalizing text atStart with
  | nil =>
    have last : Regex.leads [.finish] atStart text = true ↔ IsUpToNewline [] text := by
      simp [Regex.leads, IsUpToNewline]
    rw [List.map_nil, List.nil_append, last]
    constructor
    · intro ended
      exact ⟨[], .nil, ended⟩
    · rintro ⟨_, ⟨⟩, ended⟩
      exact ended
  | cons p pattern ih =>
    rw [List.map_cons, List.cons_append]
    -- What is left of the text once the first step is taken stands to what is left of the instance
    -- as the text to the instance, so the newline only has to be looked for at the end.
    by_cases run : p = .char '%'
    · subst run
      rw [show step (.char '%') = .many .any from rfl, Regex.leads, Regex.Atom.run_eq_true_iff]
      constructor
      · rintro ⟨skipped, rest, same, -, found⟩
        obtain ⟨body, found, ended⟩ := ih.mp found
        exact ⟨skipped ++ body, .run skipped found,
          (isUpToNewline_append_iff skipped).mpr ⟨rest, same, ended⟩⟩
      · rintro ⟨whole, found, ended⟩
        obtain ⟨skipped, body, rfl, inner⟩ := isInstance_run_iff.mp found
        obtain ⟨rest, same, left⟩ := (isUpToNewline_append_iff skipped).mp ended
        exact ⟨skipped, rest, same, fun _ _ => rfl, ih.mpr ⟨body, inner, left⟩⟩
    · obtain ⟨atom, same, takes⟩ := step_of_ne run
      rw [same]
      constructor
      · intro found
        cases text with
        | nil => cases found
        | cons c rest =>
          rw [Regex.leads, Bool.and_eq_true, takes, ih] at found
          obtain ⟨fits, body, found, ended⟩ := found
          exact ⟨c :: body, (isInstance_one_iff run).mpr ⟨c, body, rfl, fits, found⟩,
            isUpToNewline_cons_iff.mpr ⟨rest, rfl, ended⟩⟩
      · rintro ⟨whole, found, ended⟩
        obtain ⟨c, body, rfl, fits, inner⟩ := (isInstance_one_iff run).mp found
        obtain ⟨rest, rfl, left⟩ := isUpToNewline_cons_iff.mp ended
        rw [Regex.leads, Bool.and_eq_true, takes, ih]
        exact ⟨fits, body, inner, left⟩

theorem matchesText_iff :
    matchesText pattern text = true ↔ ∃ body, IsInstance pattern body ∧ IsUpToNewline body text := by
  have compiled : compile pattern = .start :: (pattern.map step ++ [.finish]) := by
    simp [compile, read?_expression]
  have opened : matchesText pattern text =
      Regex.leads (pattern.map step ++ [.finish]) true text := by
    rw [matchesText, compiled]
    rfl
  rw [opened, leads_steps_iff]

/-- A text that does not end in a newline matches a pattern exactly if it is an instance of it. -/
theorem matchesText_iff_isInstance (ending : text.getLast? ≠ some (.char '\n')) :
    matchesText pattern text = true ↔ IsInstance pattern text := by
  rw [matchesText_iff]
  constructor
  · rintro ⟨body, found, rfl | rfl⟩
    · exact found
    · exact absurd List.getLast?_concat ending
  · intro found
    exact ⟨text, found, .inl rfl⟩

/-- Marks that have a meaning in an expression stand for themselves in a pattern, and newlines
inside a text are skipped and taken like other code points. -/
theorem matchesText_iff_isInstance_marks :
    IsInstance "a%[^b]._%" "A\n\\[^B].\n*" ∧ ¬IsInstance "a.c*" "abcc" :=
  ⟨(matchesText_iff_isInstance (by decide)).mp (by decide +kernel), fun found =>
    absurd ((matchesText_iff_isInstance (by decide)).mpr found) (by decide +kernel)⟩

/-! ### Patterns without a percent sign -/

/-- Whether a text has the code points of a pattern one by one, in either case, and any one for an
underscore. -/
def Spells (pattern text : Text) : Prop :=
  List.Forall₂ (fun p c => p = .char '_' ∨ p.sameLetter c = true) pattern text

theorem isInstance_iff_spells (plain : .char '%' ∉ pattern) :
    IsInstance pattern text ↔ Spells pattern text := by
  induction pattern generalizing text with
  | nil =>
    constructor
    · rintro ⟨⟩
      exact .nil
    · rintro ⟨⟩
      exact .nil
  | cons p pattern ih =>
    simp only [List.mem_cons, not_or] at plain
    obtain ⟨noRun, others⟩ := plain
    rw [isInstance_one_iff (Ne.symm noRun), Spells, List.forall₂_cons_left_iff]
    constructor
    · rintro ⟨c, rest, rfl, fits, found⟩
      exact ⟨c, rest, fits, (ih others).mp found, rfl⟩
    · rintro ⟨c, rest, fits, spelt, rfl⟩
      exact ⟨c, rest, rfl, fits, (ih others).mpr spelt⟩

end Like

namespace Value

theorem satisfies_like {cell : Value} (present : cell ≠ .null) (pattern : Text) :
    cell.satisfies .like (.text pattern) =
      if cell.isWritable then .ok (Like.matchesText pattern cell.display)
      else .error (.overlong .integer) := by
  have given : cell.isNull = false := by
    cases cell <;> first | rfl | exact absurd rfl present
  rw [satisfies, given]
  cases cell.isWritable <;> rfl

/-- A pattern without a percent sign is satisfied by the cells that it spells, and by those that it
spells but for a newline at their end. So a cell that satisfies it is as long as the pattern, or
longer by such a newline. Only a cell that cannot be written is not told apart. -/
theorem satisfies_like_plain {pattern : Text} (plain : .char '%' ∉ pattern) {cell : Value}
    (present : cell ≠ .null) :
    ((∃ b, cell.satisfies .like (.text pattern) = .ok b) ↔ cell.isWritable = true) ∧
      (cell.satisfies .like (.text pattern) = .ok true ↔ cell.isWritable = true ∧
        ∃ body, Like.Spells pattern body ∧ Like.IsUpToNewline body cell.display) ∧
      (cell.satisfies .like (.text pattern) = .ok true →
        cell.display.length = pattern.length ∨
          cell.display.length = pattern.length + 1 ∧
            cell.display.getLast? = some (.char '\n')) := by
  have matched : Like.matchesText pattern cell.display = true ↔
      ∃ body, Like.Spells pattern body ∧ Like.IsUpToNewline body cell.display := by
    rw [Like.matchesText_iff]
    exact exists_congr fun body => and_congr_left fun _ => Like.isInstance_iff_spells plain
  rw [satisfies_like present, ← matched]
  refine ⟨by cases cell.isWritable <;> simp, by cases cell.isWritable <;> simp, fun satisfied => ?_⟩
  have spelt : Like.matchesText pattern cell.display = true := by
    split at satisfied
    · exact Except.ok.inj satisfied
    · cases satisfied
  obtain ⟨body, spells, same | same⟩ := matched.mp spelt
  · exact .inl (by rw [same, spells.length_eq])
  · refine .inr ⟨?_, by rw [same]; exact List.getLast?_concat⟩
    rw [same, List.length_append, spells.length_eq]
    rfl

theorem satisfies_like_plain_line :
    (text "Zelda\n").satisfies .like (.text "_ELD_") = .ok true ∧
      ∃ body, Like.Spells "_ELD_" body ∧ Like.IsUpToNewline body "Zelda\n" := by
  have satisfied : (text "Zelda\n").satisfies .like (.text "_ELD_") = .ok true := by
    decide +kernel
  exact ⟨satisfied, ((satisfies_like_plain (by decide) (by decide)).2.1.mp satisfied).2⟩

/-- A pattern without a percent sign is satisfied by cells of two lengths. -/
theorem satisfies_like_newline :
    .char '%' ∉ Text.ofString "a" ∧
      (text "a\n").satisfies .like (.text "a") = .ok true ∧
      (text "a").satisfies .like (.text "a") = .ok true ∧
      (text "a\n").display.length = 2 ∧ (Text.ofString "a").length = 1 := by
  decide +kernel

end Value

end SqlConsole
