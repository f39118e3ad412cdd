import SqlConsole.Proofs.Statement.Leading
import SqlConsole.Proofs.Statement.Overlong
import SqlConsole.Proofs.Token.Trailing

/-!
# Queries with their semicolon and without

A query is read as input, where a semicolon must end it (`parse_select_iff`), or on its own, where
one may (`parseSelect_eq_ok_iff`). Both ways agree, also on a number that is too long
(`parseSelect_agrees`).
-/

namespace SqlConsole

namespace Query

variable {e : Text}

/-! ### Blanks behind a query -/

theorem slice_append_allBlank (blank : e.AllBlank) (source : Text) :
    slice (source ++ e) = slice source := by
  funext tokens
  unfold slice
  split
  · rename_i first last _ _
    rw [List.drop_append, List.take_append, Text.trim_append_allBlank]
    exact fun c member => blank c (List.mem_of_mem_drop (List.mem_of_mem_take member))
  · rfl

theorem condition?_append_allBlank (blank : e.AllBlank) (source : Text) (tokens : List Token) :
    condition? (source ++ e) tokens = condition? source tokens := by
  induction tokens with
  | nil => rfl
  | cons t ts ih => simp only [condition?, comparison?, slice_append_allBlank blank, ih]

theorem ofTokens?_append_allBlank (blank : e.AllBlank) (source : Text) (tokens : List Token) :
    ofTokens? (source ++ e) tokens = ofTokens? source tokens := by
  have lists : columns? (source ++ e) = columns? source := by
    funext follow body
    simp only [columns?, slice_append_allBlank blank]
  have sorts : sortItems? (source ++ e) = sortItems? source := by
    have each : sortItem? (source ++ e) = sortItem? source := by
      funext body item
      simp only [sortItem?, slice_append_allBlank blank]
    funext follow body
    simp only [sortItems?, each]
  have filters : filter? (source ++ e) = filter? source := by
    funext follow body
    simp only [filter?, condition?_append_allBlank blank]
  simp only [ofTokens?, lists, sorts, filters]

end Query

namespace Statement

variable {source text : Text} {statement : Statement} {request : Request} {selection : Selection}

/-! ### Queries that a semicolon ends -/

theorem sameLetter_of_leavesConsole {c : CodePoint} {cs : Text} (leaves : LeavesConsole (c :: cs)) :
    CodePoint.sameLetter 'e' c = true := by
  obtain ⟨word, blanks, mark, same, letters, -⟩ := leaves
  rw [show Text.ofString "exit" = .char 'e' :: Text.ofString "xit" from rfl,
    List.forall₂_cons_left_iff] at letters
  obtain ⟨d, rest, first, -, rfl⟩ := letters
  obtain ⟨rfl, -⟩ := List.cons.inj same
  exact first

/-- What starts with the token of a leading word starts neither with a backslash nor with the word
that leaves the console. -/
theorem isPlain_of_tokens? {first : Token} {rest : List Token} {k : Keyword}
    (solid : ∀ c ∈ source.head?, c.isBlank = false) (scanned : tokens? source = .ok (first :: rest))
    (word : first.kind = .keyword k) (leading : k.spelling ∈ leadingWords) :
    (source ++ [CodePoint.char ';']).head? ≠ some (.char '\\') ∧
      ¬LeavesConsole (source ++ [CodePoint.char ';']) := by
  have scan := Query.scan_of_tokens? scanned
  cases source with
  | nil =>
    cases scan
    cases word
  | cons c cs =>
    by_cases comment : c = '-' ∧ cs.head? = some (.char '-')
    · obtain ⟨rfl, -⟩ := comment
      exact ⟨by simp, fun leaves => absurd (sameLetter_of_leavesConsole leaves) (by decide)⟩
    obtain ⟨kind, found⟩ := Token.exists_kind_lexeme (solid c rfl) comment
    obtain ⟨token, head, same⟩ := Token.head?_scanFrom_lexeme .start found
    rw [← Token.scan, scan] at head
    cases head
    rw [← same, word] at found
    have start := (Token.lexeme_keyword found).1
    refine ⟨?_, fun leaves => ?_⟩
    · rintro ⟨⟩
      exact absurd start (by decide)
    · refine leadingWord_of_isExit (isExit_iff.mpr leaves) ?_
      rw [List.cons_append, leadingWord_semicolon found]
      exact leading

theorem parse_select_iff :
    (parse text = .ok (some statement) ∧ statement.request = .select selection) ↔
      statement = ⟨text.trim, .select selection⟩ ∧
        ∃ body, text.trim = body ++ [.char ';'] ∧ read? body = .ok (.select selection) := by
  constructor
  · rintro ⟨read, query⟩
    refine ⟨?_, read?_of_selection read query⟩
    rw [← query, ← (parse_eq_some_iff.mp read).1]
  · rintro ⟨rfl, body, whole, read⟩
    obtain ⟨first, rest, k, scanned, word, leading⟩ := leads_of_read? read
    obtain ⟨plain, stays⟩ := isPlain_of_tokens? (Text.solid_of_trim whole) scanned word leading
    exact ⟨parse_of_read? whole (whole ▸ plain) (whole ▸ stays) read, rfl⟩

theorem parse_eq_error_iff {what : Overlong} :
    parse text = .error what ↔
      ∃ body, text.trim = body ++ [.char ';'] ∧ read? body = .error (.overlong what) := by
  constructor
  · intro fails
    obtain ⟨body, whole, -, overlong⟩ := exists_of_parse_error fails
    exact ⟨body, whole, overlong⟩
  · rintro ⟨body, whole, overlong⟩
    obtain ⟨first, rest, scanned, select, -⟩ := read?_eq_overlong_iff.mp overlong
    obtain ⟨plain, stays⟩ :=
      isPlain_of_tokens? (Text.solid_of_trim whole) scanned select (by decide)
    have failed : parseEnded (body ++ [.char ';']) = .error what :=
      parseEnded_eq_error.mpr (by rwa [List.dropLast_concat])
    rw [parse_eq_error, whole, parseTrimmed_plain (by simp) plain, if_neg (mt isExit_iff.mp stays),
      List.getLast?_concat, if_pos rfl, failed]
    rfl

theorem trim_semicolon (a : Text) :
    Text.trim (a ++ [.char ';']) = Text.trimLeft a ++ [.char ';'] := by
  obtain ⟨b, blank, same⟩ := Text.exists_trimLeft a
  have trimmed : Text.IsTrimmed (Text.trimLeft a ++ [.char ';']) := by
    constructor
    · intro c head
      rw [List.head?_append, Text.head?_trimLeft] at head
      cases found : a.find? (!·.isBlank) with
      | none =>
        rw [found] at head
        cases head
        decide
      | some d =>
        rw [found] at head
        cases head
        simpa using List.find?_some found
    · rw [List.getLast?_concat]
      rintro c ⟨⟩
      decide
  have framed := Text.trim_framed blank trimmed (e := []) (by simp [Text.AllBlank])
  rwa [List.append_nil, ← List.append_assoc, ← same] at framed

theorem parse_semicolon_select_iff {a : Text} :
    (∃ statement, parse (a ++ [.char ';']) = .ok (some statement) ∧
        statement.request = .select selection) ↔
      read? (Text.trimLeft a) = .ok (.select selection) := by
  simp only [parse_select_iff, trim_semicolon, List.append_cancel_right_eq, exists_eq_left,
    exists_eq_left']

/-! ### Queries on their own -/

theorem read?_select_iff :
    read? source = .ok (.select selection) ↔ ∃ first rest, tokens? source = .ok (first :: rest) ∧
      first.kind = .keyword .select ∧ Query.ofTokens? source rest = .ok selection := by
  constructor
  · intro read
    obtain ⟨tokens, scanned, asked⟩ := bind_ok_iff.mp read
    obtain ⟨first, rest, rfl, word, query⟩ := ofTokens?_of_request? asked
    exact ⟨first, rest, scanned, word, query⟩
  · rintro ⟨first, rest, scanned, word, query⟩
    refine bind_ok_iff.mpr ⟨_, scanned, ?_⟩
    simp only [request?, word, query]
    rfl

theorem parseSelect_eq_ok_iff :
    parseSelect text = .ok statement ↔ ∃ selection,
      statement = ⟨text.trim, .select selection⟩ ∧
        read? (withoutSemicolon text.trim) = .ok (.select selection) := by
  simp only [read?_select_iff]
  constructor
  · intro read
    obtain ⟨tokens, scanned, read⟩ := bind_ok_iff.mp read
    cases tokens with
    | nil => cases read
    | cons first rest =>
      dsimp only at read
      split at read
      · rename_i word
        obtain ⟨selection, query, result⟩ := bind_ok_iff.mp read
        cases result
        exact ⟨selection, rfl, first, rest, scanned, word, query⟩
      · cases read
  · rintro ⟨selection, rfl, first, rest, scanned, word, query⟩
    refine bind_ok_iff.mpr ⟨_, scanned, ?_⟩
    simp only [word, if_true, query]
    rfl

theorem parseSelect_eq_overlong_iff {what : Overlong} :
    parseSelect text = .error (.overlong what) ↔
      read? (withoutSemicolon text.trim) = .error (.overlong what) := by
  rw [read?_eq_overlong_iff]
  unfold parseSelect
  rw [bind_error_iff]
  constructor
  · rintro (fails | ⟨tokens, scanned, fails⟩)
    · exact absurd fails tokens?_ne_overlong
    cases tokens with
    | nil => cases fails
    | cons first rest =>
      dsimp only at fails
      split at fails
      · rename_i word
        rcases bind_error_iff.mp fails with query | ⟨_, -, ⟨⟩⟩
        exact ⟨first, rest, scanned, word, query⟩
      · cases fails
  · rintro ⟨first, rest, scanned, word, query⟩
    refine .inr ⟨_, scanned, ?_⟩
    simp only [word, if_true, query]
    rfl

/-- Texts with the same tokens up to the last, which mark the ends, are the same query if what their
tokens ask for does not depend on which of the texts is the source. -/
theorem read?_of_inner {other : Text} {inner : List Token} {stop stop' : Token}
    (scanned : Token.scan source = inner ++ [stop]) (moved : Token.scan other = inner ++ [stop'])
    (ends' : stop'.kind = .stop)
    (same : ∀ tokens, Query.ofTokens? source tokens = Query.ofTokens? other tokens)
    (read : read? source = .ok (.select selection)) : read? other = .ok (.select selection) := by
  obtain ⟨first, others, last, found, word, ends, free, query⟩ := ofTokens?_of_read? read
  obtain ⟨whole, lexed⟩ := tokens?_eq_ok_iff.mp found
  rw [scanned, ← List.cons_append] at whole
  obtain ⟨rfl, -⟩ := List.append_inj' whole rfl
  rw [same, Query.ofTokens?_eq_ok_iff ends free, ← Query.ofTokens?_eq_ok_iff ends' free] at query
  refine read?_select_iff.mpr ⟨first, _, tokens?_eq_ok_iff.mpr ⟨moved.symm, ?_⟩, word, query⟩
  rw [scanned, List.forall_mem_append] at lexed
  rw [moved, List.forall_mem_append]
  exact ⟨lexed.1, by simp [ends']⟩

theorem read?_append_allBlank {e : Text} (blank : e.AllBlank) :
    read? (source ++ e) = .ok (.select selection) ↔ read? source = .ok (.select selection) := by
  obtain ⟨inner, stop, stop', scanned, moved, ends, ends'⟩ :=
    Token.scanFrom_append_allBlank blank (t := source) .start (Nat.zero_le _)
  have same := Query.ofTokens?_append_allBlank blank source
  exact ⟨read?_of_inner moved scanned ends same,
    read?_of_inner scanned moved ends' fun tokens => (same tokens).symm⟩

theorem withoutSemicolon_of_unended {t : Text} (unended : t.getLast? ≠ some (.char ';')) :
    withoutSemicolon t = t := if_neg unended

theorem ended_eq_append (ended : text.trim.getLast? = some (.char ';')) :
    text.trim = withoutSemicolon text.trim ++ [.char ';'] := by
  rw [withoutSemicolon, if_pos ended]
  exact (List.dropLast_append_getLast? _ ended).symm

theorem parse_query_iff_of_ended (ended : text.trim.getLast? = some (.char ';')) :
    (parse text = .ok (some statement) ∧ ∃ selection, statement.request = .select selection) ↔
      parseSelect text = .ok statement := by
  rw [parseSelect_eq_ok_iff, ← exists_and_left]
  refine exists_congr fun selection => ?_
  have whole := ended_eq_append ended
  generalize withoutSemicolon text.trim = body at whole ⊢
  rw [parse_select_iff, whole]
  simp only [List.append_cancel_right_eq, exists_eq_left']

theorem parse_error_iff_of_ended {what : Overlong}
    (ended : text.trim.getLast? = some (.char ';')) :
    parse text = .error what ↔ parseSelect text = .error (.overlong what) := by
  have whole := ended_eq_append ended
  rw [parseSelect_eq_overlong_iff]
  generalize withoutSemicolon text.trim = body at whole ⊢
  rw [parse_eq_error_iff, whole]
  simp only [List.append_cancel_right_eq, exists_eq_left']

theorem parseSelect_eq_ok_iff_of_unended (unended : text.trim.getLast? ≠ some (.char ';')) :
    parseSelect text = .ok statement ↔ ∃ selection, statement = ⟨text.trim, .select selection⟩ ∧
      read? (Text.trimLeft text) = .ok (.select selection) := by
  obtain ⟨e, blank, same⟩ := Text.exists_trimRight (Text.trimLeft text)
  rw [parseSelect_eq_ok_iff, withoutSemicolon_of_unended unended, same]
  simp only [read?_append_allBlank blank, Text.trim]

example : parseSelect " select a from t\n--;\n" =
    .ok ⟨"select a from t\n--;", .select ⟨["a"], "t", none, none, [], [], none, none⟩⟩ := by
  decide +kernel

end Statement

end SqlConsole
