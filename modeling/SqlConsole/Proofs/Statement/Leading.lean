import SqlConsole.Proofs.Text.Name
import SqlConsole.Proofs.Token.First
import SqlConsole.Proofs.Statement.Terminated
import SqlConsole.Proofs.Statement.Unfinished

/-!
# Input refused before its semicolon

Input in words that is refused although no semicolon ends it starts with a token that starts no
statement, so it is refused whatever lines follow it (`refused_append`).
-/

namespace SqlConsole

namespace CodePoint

theorem isBlank_of_sameLetter {letter c : CodePoint} (same : letter.sameLetter c = true)
    (solid : letter.fold.isBlank = false) : c.isBlank = false := by
  have keys : Text.foldPairs.all (fun pair => !Text.inRanges Text.blankRanges pair.1) = true := by
    decide
  by_contra blank
  have blank : c.isBlank = true := by simpa using blank
  have self : c.fold = c := by
    rw [fold, lower_of_isBlank blank]
    cases found : Text.foldPairs.lookup c.code with
    | none => rfl
    | some representative =>
      obtain ⟨l₁, l₂, pairs, -⟩ := List.lookup_eq_some_iff.mp found
      have key := List.all_eq_true.mp keys (c.code, representative) (by simp [pairs])
      rw [show Text.inRanges Text.blankRanges c.code = true from blank] at key
      cases key
  rw [sameLetter, self, beq_iff_eq] at same
  rw [same, blank] at solid
  cases solid

end CodePoint

theorem Keyword.eq_spelling {k : Keyword} {t : Text} (found : ofSpelling? t = some k) :
    t = k.spelling := by
  unfold ofSpelling? at found
  have same := List.find?_some found
  exact (beq_iff_eq.mp same).symm

namespace Statement

variable {c : CodePoint} {cs t x y : Text}

/-! ### The word that leaves the console -/

theorem solid_of_sameLetters {word : Text}
    (letters : List.Forall₂ (fun a b => a.sameLetter b = true) (Text.ofString "exit") word) :
    ∀ c ∈ word, c.isBlank = false := by
  have solid : ∀ letter ∈ Text.ofString "exit", letter.fold.isBlank = false := by decide
  generalize Text.ofString "exit" = spelling at letters solid
  induction letters with
  | nil => simp
  | cons same _ ih =>
    obtain ⟨first, others⟩ := List.forall_mem_cons.mp solid
    exact List.forall_mem_cons.mpr ⟨CodePoint.isBlank_of_sameLetter same first, ih others⟩

theorem leavesConsole_of_append (trimmed : t.IsTrimmed) (unended : t.getLast? ≠ some (.char ';'))
    (edge : ∀ c ∈ y.head?, c.isBlank = true) (leaves : LeavesConsole (t ++ y)) :
    LeavesConsole t := by
  obtain ⟨word, blanks, mark, same, letters, blank, marked⟩ := leaves
  have alone : t = word → LeavesConsole t := by
    rintro rfl
    exact ⟨t, [], [], by simp, letters, by simp [Text.AllBlank], .inl rfl⟩
  rcases List.append_eq_append_iff.mp same with ⟨m, whole, rest⟩ | ⟨m, whole, rest⟩
  · -- What is left of the word would start with a blank.
    cases m with
    | nil => exact alone (by rw [whole, List.append_nil])
    | cons d ds =>
      have solid := solid_of_sameLetters letters d (by simp [whole])
      rw [edge d (by rw [rest]; rfl)] at solid
      cases solid
  · -- What goes beyond the word would end with a blank or a semicolon.
    rcases List.eq_nil_or_concat m with rfl | ⟨m, d, rfl⟩
    · exact alone (by rw [whole, List.append_nil])
    · have last : t.getLast? = some d := by simp [whole]
      have member : d ∈ blanks ++ mark := by simp [rest]
      rcases List.mem_append.mp member with inside | final
      · have solid := trimmed.2 d last
        rw [blank d inside] at solid
        cases solid
      · rcases marked with rfl | rfl
        · cases final
        · exact absurd (last.trans (congrArg some (List.mem_singleton.mp final))) unended

/-! ### The word at the front -/

theorem leadingWord_of_lexeme {k : Keyword} (word : (Token.lexeme c cs).kind = some (.keyword k)) :
    leadingWord (c :: cs) = k.spelling := by
  obtain ⟨start, reserved⟩ := Token.lexeme_keyword word
  have lower : Text.lower (c :: cs.takeWhile CodePoint.isWord) = k.spelling := by
    unfold Token.wordKind at reserved
    split at reserved
    · rename_i found
      cases reserved
      exact Keyword.eq_spelling found
    · cases reserved
  have cut : c :: cs = (c :: cs.takeWhile CodePoint.isWord) ++ cs.dropWhile CodePoint.isWord := by
    rw [List.cons_append, List.takeWhile_append_dropWhile]
  have ascii : ∀ c ∈ k.spelling, c.code < 0x80 := by cases k <;> decide
  have name : k.spelling.leadingName = k.spelling := by cases k <;> decide
  rw [leadingWord, cut, Text.leadingName_lower (lower ▸ ascii) (by rw [lower, name]), lower]
  intro d head
  have stops := List.head?_dropWhile_not CodePoint.isWord cs
  rw [Option.mem_def.mp head] at stops
  exact stops

theorem leadingWord_semicolon {k : Keyword} (word : (Token.lexeme c cs).kind = some (.keyword k)) :
    leadingWord (c :: (cs ++ [.char ';'])) = k.spelling := by
  refine leadingWord_of_lexeme ?_
  rcases Token.lexeme_kind_append Token.isEdge_semicolon word [] with kept | ⟨⟨⟩, -⟩
  exact kept

/-- Whether the first token of a text starts no statement that may go on. -/
def OpensOther (t : Text) : Prop :=
  ∃ first ∈ (Token.scan t).head?, first.kind ≠ .stop ∧
    ∀ k, first.kind = .keyword k → k.spelling ∉ leadingWords

theorem OpensOther.append {d : CodePoint} (opens : OpensOther t) (edge : Token.IsEdge d)
    (rest : Text) : OpensOther (t ++ d :: rest) := by
  obtain ⟨first, head, real, other⟩ := opens
  obtain ⟨token, found, kind | ⟨-, text⟩⟩ :=
    Token.head?_scanFrom_append edge rest .start (Nat.zero_le _) head real
  · exact ⟨token, found, kind ▸ real, kind ▸ other⟩
  · exact ⟨token, found, by simp [text], by simp [text]⟩

theorem OpensOther.before_semicolon (opens : OpensOther t)
    (unended : t.getLast? ≠ some (.char ';')) (edge : ∀ c ∈ y.head?, c.isBlank = true)
    (ended : (t ++ y).getLast? = some (.char ';')) : OpensOther (t ++ y).dropLast := by
  cases y with
  | nil => exact absurd (by simpa using ended) unended
  | cons d ds =>
    have blank := edge d rfl
    cases ds with
    | nil =>
      obtain rfl : d = .char ';' := by simpa using ended
      exact absurd blank (by decide)
    | cons e es =>
      rw [List.dropLast_append_of_ne_nil (by simp), List.dropLast_cons_of_ne_nil (by simp)]
      exact opens.append (Token.isEdge_of_isBlank blank) _

theorem opensOther_of_leadingWord (visible : t ≠ []) (trimmed : t.IsTrimmed)
    (uncommented : ¬Text.ofString "--" <+: t) (other : leadingWord t ∉ leadingWords) :
    OpensOther t := by
  obtain ⟨c, cs, rfl⟩ := List.exists_cons_of_ne_nil visible
  obtain ⟨kind, found⟩ : ∃ kind, (Token.lexeme c cs).kind = some kind := by
    refine Token.exists_kind_lexeme (trimmed.1 c rfl) ?_
    rintro ⟨rfl, dash⟩
    obtain ⟨inline, rfl⟩ := List.head?_eq_some_iff.mp dash
    exact uncommented ⟨inline, rfl⟩
  obtain ⟨first, head, same⟩ := Token.head?_scanFrom_lexeme .start found
  refine ⟨first, head, ?_, fun k word => ?_⟩
  · rintro stop
    exact Token.lexeme_kind_ne_stop c cs (found.trans (congrArg _ (same.symm.trans stop)))
  · rw [← leadingWord_of_lexeme (found.trans (congrArg _ (same.symm.trans word)))]
    exact other

theorem not_opensOther {token : Token} {rest : List Token} {k : Keyword}
    (scanned : tokens? t = .ok (token :: rest)) (word : token.kind = .keyword k)
    (leading : k.spelling ∈ leadingWords) : ¬OpensOther t := by
  rintro ⟨first, head, -, other⟩
  rw [Query.scan_of_tokens? scanned] at head
  cases head
  exact other k word leading

/-- What starts so is refused. What is read would start with a leading word, and so would a query
with a number that is too long. -/
theorem parseEnded_of_opensOther (opens : OpensOther t.dropLast) :
    ∃ message token, parseEnded t = .ok (.refused message token) := by
  cases found : parseEnded t with
  | error what =>
    obtain ⟨first, rest, scanned, select, -⟩ := read?_eq_overlong_iff.mp (parseEnded_eq_error.mp found)
    exact absurd opens (not_opensOther scanned select (by decide))
  | ok request =>
    rcases parseEnded_eq_ok_iff.mp found with read | ⟨fault, -, -, rfl⟩
    · obtain ⟨first, rest, k, scanned, word, leading⟩ := leads_of_read? read
      exact absurd opens (not_opensOther scanned word leading)
    · obtain ⟨message, token, refused⟩ := refusal_refuses t fault
      exact ⟨message, token, congrArg _ refused⟩

/-! ### Lines after refused input -/

/-- What is refused before its semicolon starts neither with the word that leaves the console nor
with a leading word. -/
theorem leadingWord_of_refused {text : Text} {statement : Statement}
    (read : parse text = .ok (some statement)) (plain : text.trim.head? ≠ some (.char '\\'))
    (unended : text.trim.getLast? ≠ some (.char ';')) (refused : statement.request.IsRefused) :
    text.trim ≠ [] ∧ ¬LeavesConsole text.trim ∧ leadingWord text.trim ∉ leadingWords := by
  have visible : text.trim ≠ [] := by
    intro empty
    rw [parse, empty] at read
    cases read
  obtain ⟨-, found⟩ := parse_eq_some_iff.mp read
  rw [parseTrimmed_plain visible plain, if_neg unended] at found
  refine ⟨visible, fun leaves => ?_, fun leading => ?_⟩
  · rw [if_pos (isExit_iff.mpr leaves)] at found
    obtain ⟨message, token, same⟩ := refused
    cases (Option.some.inj (Except.ok.inj found)).trans same
  · have stays : ¬isExit text.trim = true := fun exit => leadingWord_of_isExit exit leading
    rw [if_neg stays, if_pos (List.contains_iff_mem.mpr leading)] at found
    cases found

/-- Input in words that is refused although no semicolon ends it is refused whatever lines follow
it. What starts with a comment has to go on with a token that starts no statement. -/
theorem refused_append {a : Text} {statement : Statement} (read : parse a = .ok (some statement))
    (plain : a.trim.head? ≠ some (.char '\\')) (unended : a.trim.getLast? ≠ some (.char ';'))
    (refused : statement.request.IsRefused)
    (commented : Text.ofString "--" <+: a.trim → OpensOther a.trim) (b : Text) :
    ∃ whole, parse (a ++ "\n" ++ b) = .ok (some whole) ∧ whole.request.IsRefused := by
  obtain ⟨visible, stays, other⟩ := leadingWord_of_refused read plain unended refused
  have trimmed := Text.trim_isTrimmed a
  have opens : OpensOther a.trim := by
    by_cases comment : Text.ofString "--" <+: a.trim
    · exact commented comment
    · exact opensOther_of_leadingWord visible trimmed comment other
  have newline : ∀ c ∈ List.head? (Text.ofString "\n" ++ b), c.isBlank = true := by
    intro c head
    obtain rfl : .char '\n' = c := by simpa [Text.ofString] using head
    decide
  obtain ⟨y, joined, edge⟩ := Text.trim_append_blank visible newline
  rw [← List.append_assoc] at joined
  have goesOn : (a.trim ++ y).head? ≠ some (.char '\\') := by
    rwa [List.head?_append_of_ne_nil _ visible]
  have remains : ¬isExit (a.trim ++ y) = true := fun exit =>
    stays (leavesConsole_of_append trimmed unended edge (isExit_iff.mp exit))
  have leading : ¬leadingWords.contains (leadingWord (a.trim ++ y)) = true := by
    rw [leadingWord, Text.leadingName_lower_append_blank _ edge]
    exact mt List.contains_iff_mem.mp other
  rw [parse, joined, parseTrimmed_plain (by simp [visible]) goesOn, if_neg remains,
    if_neg leading]
  split
  · rename_i ended
    obtain ⟨message, token, answered⟩ :=
      parseEnded_of_opensOther (opens.before_semicolon unended edge ended)
    rw [answered]
    exact ⟨_, rfl, message, token, rfl⟩
  · exact ⟨_, rfl, _, _, rfl⟩

/-- A line that starts with a comment and goes on with a name, before a query. -/
theorem refused_append_comment :
    ∃ whole, parse ((" --\nfoo" : Text) ++ "\n" ++ "select a from t;") = .ok (some whole) ∧
      whole.request.IsRefused := by
  have read : parse " --\nfoo" =
      .ok (some ⟨"--\nfoo", .refused (misplacedMessage "--") "--"⟩) := by decide +kernel
  refine refused_append read (by decide +kernel) (by decide +kernel) ⟨_, _, rfl⟩ (fun _ => ?_) _
  exact ⟨⟨.identifier, "foo", 2, 1, 3, 6⟩, by decide +kernel, by decide, by simp⟩

/-- A comment on a line of its own is refused, and accepted with the statement after it. -/
theorem parse_comment_line :
    parse "-- a" = .ok (some ⟨"-- a", .refused (misplacedMessage "--") "--"⟩) ∧
      parse (("-- a" : Text) ++ "\n" ++ "use d;") =
        .ok (some ⟨"-- a\nuse d;", .useDatabase "d"⟩) := by
  decide +kernel

end Statement

end SqlConsole
