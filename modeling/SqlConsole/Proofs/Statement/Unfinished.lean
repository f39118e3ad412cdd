import SqlConsole.Statement.Parse
import SqlConsole.Proofs.Result
import SqlConsole.Proofs.Text.Case
import SqlConsole.Proofs.Text.Trim

/-!
# Unfinished statements

Input without a backslash in front is no statement yet exactly when it starts with one of the
leading words and lacks the semicolon (`parseTrimmed_eq_none`). Such input stays unfinished with any
line after it that brings no semicolon, and a semicolon always finishes it, but for input that
cannot be read.
-/

namespace SqlConsole.Statement

/-- Whether a text is the start of a statement that is not complete yet. -/
structure IsUnfinished (text : Text) : Prop where
  parse_none : parse text = .ok none
  visible : text.trim ≠ []
  no_backslash : text.trim.head? ≠ some (.char '\\')
  no_semicolon : text.trim.getLast? ≠ some (.char ';')
  leading : leadingWord text.trim ∈ leadingWords

/-! ### When input is no statement -/

theorem parse_eq_none {text : Text} : parse text = .ok none ↔ parseTrimmed text.trim = .ok none := by
  unfold parse
  rw [bind_ok_iff]
  constructor
  · rintro ⟨request, found, result⟩
    cases request with
    | none => exact found
    | some request => cases result
  · exact fun absent => ⟨none, absent, rfl⟩

theorem parse_eq_some_iff {text : Text} {statement : Statement} :
    parse text = .ok (some statement) ↔ statement.command = text.trim ∧
      parseTrimmed text.trim = .ok (some statement.request) := by
  unfold parse
  rw [bind_ok_iff]
  constructor
  · rintro ⟨request, found, result⟩
    cases request with
    | none => cases result
    | some request =>
      cases result
      exact ⟨rfl, found⟩
  · rintro ⟨same, found⟩
    refine ⟨_, found, ?_⟩
    rw [Option.map_some, ← same]
    rfl

theorem parse_eq_error {text : Text} {what : Overlong} :
    parse text = .error what ↔ parseTrimmed text.trim = .error what := by
  unfold parse
  rw [bind_error_iff, or_iff_left]
  rintro ⟨_, -, ⟨⟩⟩

theorem parseEnded_eq_error {t : Text} {what : Overlong} :
    parseEnded t = .error what ↔ read? t.dropLast = .error (.overlong what) := by
  unfold parseEnded
  split <;> simp_all

theorem parseEnded_eq_ok_iff {t : Text} {request : Request} :
    parseEnded t = .ok request ↔ read? t.dropLast = .ok request ∨
      ∃ fault, read? t.dropLast = .error fault ∧ fault.kind ≠ .uncaught ∧
        request = refusal t fault := by
  unfold parseEnded
  cases read? t.dropLast with
  | ok request => simp
  | error fault => cases fault <;> simp [Fault.kind, eq_comm]

theorem parseTrimmed_plain {t : Text} (visible : t ≠ []) (plain : t.head? ≠ some (.char '\\')) :
    parseTrimmed t =
      if isExit t then .ok (some .exit)
      else if t.getLast? = some (.char ';') then some <$> parseEnded t
      else if leadingWords.contains (leadingWord t) then .ok none
      else .ok (some (.refused (misplacedMessage (firstWord t)) (firstWord t))) := by
  unfold parseTrimmed
  split
  · exact absurd rfl visible
  · exact absurd rfl plain
  · rfl

theorem leadingWord_of_isExit {t : Text} (exit : isExit t = true) :
    leadingWord t ∉ leadingWords := by
  obtain ⟨a, b, rest, rfl, first, second⟩ : ∃ a b rest, t = a :: b :: rest ∧
      a.fold = .char 'e' ∧ b.fold = .char 'x' := by
    unfold isExit at exit
    match t, exit with
    | [], exit => exact absurd exit (by decide)
    | [a], exit => simp [Text.ofString] at exit
    | a :: b :: rest, exit =>
      refine ⟨a, b, rest, rfl, ?_⟩
      have letters : CodePoint.fold 'e' = .char 'e' ∧ CodePoint.fold 'x' = .char 'x' := by
        decide
      simp only [Bool.and_eq_true] at exit
      have folds := exit.1.2
      simp [Text.ofString, CodePoint.sameLetter, letters] at folds
      exact ⟨folds.1.symm, folds.2.1.symm⟩
  have lowered : leadingWord (a :: b :: rest) =
      .char 'e' :: .char 'x' :: (Text.lowerFrom [b, a] rest).takeWhile CodePoint.isWord := by
    unfold leadingWord Text.lower
    rw [Text.lowerFrom, Text.lowerFrom,
      Text.lowerBetween_of_sameLetter (by decide) (by decide) (by decide) first,
      Text.lowerBetween_of_sameLetter (by decide) (by decide) (by decide) second]
    rfl
  intro member
  have short : ∀ word ∈ leadingWords, word.take 2 ≠ "ex" := by decide
  exact short _ member (by rw [lowered]; rfl)

theorem leadingWord_backslash (rest : Text) : leadingWord (.char '\\' :: rest) ∉ leadingWords := by
  have nameless : leadingWord (.char '\\' :: rest) = [] := by
    unfold leadingWord Text.lower
    rw [Text.lowerFrom, Text.lowerBetween_ascii (by decide)]
    rfl
  rw [nameless]
  decide

theorem leadingWord_blank {c : CodePoint} (blank : c.isBlank = true) (rest : Text) :
    leadingWord (c :: rest) = [] := by
  unfold leadingWord Text.lower
  rw [Text.lowerFrom, Text.lowerBetween_of_isBlank blank, List.singleton_append, Text.leadingName]
  simp [CodePoint.isWordStart, CodePoint.isWord_of_isBlank blank]

theorem parseTrimmed_of_leading {t : Text}
    (leading : leadingWord (t ++ [.char ';']) ∈ leadingWords) :
    parseTrimmed (t ++ [.char ';']) = some <$> parseEnded (t ++ [.char ';']) := by
  have plain : (t ++ [.char ';'] : Text).head? ≠ some (.char '\\') := by
    intro slash
    obtain ⟨rest, same⟩ := List.head?_eq_some_iff.mp slash
    rw [same] at leading
    exact leadingWord_backslash rest leading
  have stays : ¬isExit (t ++ [.char ';']) = true := fun exit => leadingWord_of_isExit exit leading
  rw [parseTrimmed_plain (by simp) plain, if_neg stays, List.getLast?_concat, if_pos rfl]

theorem isTrimmed_of_leading {t : Text}
    (leading : leadingWord (t ++ [.char ';']) ∈ leadingWords) :
    Text.IsTrimmed (t ++ [.char ';']) := by
  constructor
  · intro c head
    obtain ⟨rest, same⟩ := List.head?_eq_some_iff.mp head
    by_contra blank
    rw [same, leadingWord_blank (by simpa using blank)] at leading
    exact absurd leading (by decide)
  · rw [List.getLast?_concat]
    rintro c ⟨⟩
    decide

theorem parse_of_leading {b t e : Text} (before : b.AllBlank) (after : e.AllBlank)
    (leading : leadingWord (t ++ [.char ';']) ∈ leadingWords) :
    parse (b ++ (t ++ [.char ';'] ++ e)) =
      (fun request => some ⟨t ++ [.char ';'], request⟩) <$> parseEnded (t ++ [.char ';']) := by
  unfold parse
  rw [Text.trim_framed before (isTrimmed_of_leading leading) after, parseTrimmed_of_leading leading]
  cases parseEnded (t ++ [.char ';']) <;> rfl

theorem parseTrimmed_eq_none {t : Text} (visible : t ≠ [])
    (plain : t.head? ≠ some (.char '\\')) :
    parseTrimmed t = .ok none ↔
      t.getLast? ≠ some (.char ';') ∧ leadingWord t ∈ leadingWords := by
  rw [parseTrimmed_plain visible plain]
  constructor
  · intro absent
    split at absent
    · exact absurd absent (by simp)
    · split at absent
      · obtain ⟨_, -, ⟨⟩⟩ := map_ok_iff.mp absent
      · rename_i unended
        split at absent
        · rename_i word
          exact ⟨unended, List.contains_iff_mem.mp word⟩
        · exact absurd absent (by simp)
  · intro given
    obtain ⟨unended, word⟩ := given
    have stays : isExit t = false := by
      by_contra exit
      exact leadingWord_of_isExit (by simpa using exit) word
    simp [stays, unended, word]

theorem isUnfinished_of_parse {text : Text} (visible : text.trim ≠ [])
    (plain : text.trim.head? ≠ some (.char '\\')) (absent : parse text = .ok none) :
    IsUnfinished text := by
  obtain ⟨unended, word⟩ := (parseTrimmed_eq_none visible plain).mp (parse_eq_none.mp absent)
  exact ⟨absent, visible, plain, unended, word⟩

theorem isUnfinished_of_leading {text : Text} (word : leadingWord text.trim ∈ leadingWords)
    (unended : text.trim.getLast? ≠ some (.char ';')) : IsUnfinished text := by
  have visible : text.trim ≠ [] := by
    intro empty
    rw [empty] at word
    exact absurd word (by decide)
  have plain : text.trim.head? ≠ some (.char '\\') := by
    intro head
    obtain ⟨rest, same⟩ := List.head?_eq_some_iff.mp head
    rw [same] at word
    exact absurd word (leadingWord_backslash rest)
  exact isUnfinished_of_parse visible plain
    (parse_eq_none.mpr ((parseTrimmed_eq_none visible plain).mpr ⟨unended, word⟩))

theorem parse_ne_none_of_semicolon {text : Text}
    (plain : text.trim.head? ≠ some (.char '\\'))
    (ended : text.trim.getLast? = some (.char ';')) : parse text ≠ .ok none := by
  have visible : text.trim ≠ [] := by
    intro empty
    rw [empty] at ended
    exact absurd ended (by simp)
  intro absent
  exact ((parseTrimmed_eq_none visible plain).mp (parse_eq_none.mp absent)).1 ended

/-! ### Going on after unfinished input -/

namespace IsUnfinished

variable {text : Text}

theorem head?_append (unfinished : IsUnfinished text) (x : Text) :
    (text ++ x).trim.head? = text.trim.head? := by
  obtain ⟨c, cs, found⟩ := List.exists_cons_of_ne_nil unfinished.visible
  rw [Text.head?_trim_append, found]
  rfl

theorem append_line (unfinished : IsUnfinished text) {line : Text}
    (unended : line.trim.getLast? ≠ some (.char ';')) :
    IsUnfinished (text ++ "\n" ++ line) := by
  rw [List.append_assoc]
  have blank : ∀ c ∈ List.head? (Text.ofString "\n" ++ line), c.isBlank = true := by
    intro c head
    obtain rfl : .char '\n' = c := by simpa [Text.ofString] using head
    decide
  apply isUnfinished_of_leading
  · obtain ⟨x, joined, edge⟩ := Text.trim_append_blank unfinished.visible blank
    rw [joined, leadingWord, Text.leadingName_lower_append_blank _ edge]
    exact unfinished.leading
  · have newline : Text.trim (Text.ofString "\n") = [] := by decide
    rw [Text.getLast?_trim_append, Text.getLast?_trim_append, newline]
    cases last : line.trim.getLast? with
    | none => exact unfinished.no_semicolon
    | some c => simpa [last] using unended

theorem parse_append_ne_none (unfinished : IsUnfinished text) {x : Text}
    (ended : x.trim.getLast? = some (.char ';')) : parse (text ++ x) ≠ .ok none := by
  apply parse_ne_none_of_semicolon
  · rw [unfinished.head?_append]
    exact unfinished.no_backslash
  · rw [Text.getLast?_trim_append, ended]
    rfl

end IsUnfinished

end SqlConsole.Statement
