import SqlConsole.Proofs.Statement.Overlong
import SqlConsole.Proofs.Statement.Reading
import SqlConsole.Proofs.Statement.Unfinished
import SqlConsole.Proofs.Text.Words
import SqlConsole.Proofs.Token.Numbers

/-!
# What input is

Input is a statement or it is none, and which of the two is told by its first word and its last code
point (`parse_classifies`). No token is missing on the way there, and only a number that is too long
keeps input from being read.
-/

namespace SqlConsole.Statement

/-! ### The word that leaves the console -/

/-- Whether a text is the word that leaves the console, in any case, with blanks after it and at
most one semicolon at the end. -/
def LeavesConsole (t : Text) : Prop :=
  ∃ word blanks mark : Text, t = word ++ (blanks ++ mark) ∧
    List.Forall₂ (fun a b => a.sameLetter b = true) (Text.ofString "exit") word ∧
    blanks.AllBlank ∧ (mark = [] ∨ mark = [.char ';'])

theorem zip_append_of_length {α β : Type} {as : List α} {bs : List β}
    (length : as.length = bs.length) (rest : List β) : as.zip (bs ++ rest) = as.zip bs := by
  have joined : (as ++ []).zip (bs ++ rest) = as.zip bs ++ [].zip rest := List.zip_append length
  simpa using joined

theorem isExit_iff {t : Text} : isExit t = true ↔ LeavesConsole t := by
  constructor
  · intro exit
    simp only [isExit, Bool.and_eq_true, Bool.or_eq_true, beq_iff_eq] at exit
    obtain ⟨⟨length, letters⟩, mark⟩ := exit
    obtain ⟨blanks, blank, rest⟩ := Text.exists_trimLeft (t.drop (Text.ofString "exit").length)
    refine ⟨t.take (Text.ofString "exit").length, blanks, _, ?_, ?_, blank, mark⟩
    · rw [← rest, List.take_append_drop]
    · rw [← List.take_append_drop (Text.ofString "exit").length t,
        zip_append_of_length length.symm] at letters
      exact List.forall₂_iff_zip.mpr
        ⟨length.symm, fun {a b} member => List.all_eq_true.mp letters _ member⟩
  · rintro ⟨word, blanks, mark, rfl, same, blank, ends⟩
    have length := same.length_eq
    have solid : Text.trimLeft mark = mark := by
      rcases ends with rfl | rfl <;> rfl
    simp only [isExit, Bool.and_eq_true, Bool.or_eq_true, beq_iff_eq]
    rw [zip_append_of_length length, length, List.take_left, List.drop_left,
      Text.trimLeft_append blank, solid]
    refine ⟨⟨rfl, ?_⟩, ends⟩
    exact List.all_eq_true.mpr fun pair member => List.forall₂_zip same member

/-! ### Commands with a backslash -/

def commands : List Text := ["\\l", "\\dt", "\\d", "\\c", "\\q"]

/-- Whether a command with a backslash is passed over: it is unknown, or lacks what it needs. -/
def IsPassedOver (t : Text) : Prop :=
  (∃ name arguments, (withoutSemicolon t).words = name :: arguments ∧ name ∉ commands) ∨
    (withoutSemicolon t).words = ["\\c"]

theorem words_withoutSemicolon {t : Text} (backslash : t.head? = some (.char '\\')) :
    (withoutSemicolon t).words ≠ [] := by
  obtain ⟨rest, rfl⟩ := List.head?_eq_some_iff.mp backslash
  have first : CodePoint.char '\\' ∈ withoutSemicolon (.char '\\' :: rest) := by
    unfold withoutSemicolon
    split
    · rename_i ended
      cases rest with
      | nil => cases ended
      | cons c rest => simp
    · simp
  exact Text.words_ne_nil first (by decide)

theorem metaRequest?_eq_none {t : Text} (backslash : t.head? = some (.char '\\')) :
    metaRequest? t = none ↔ IsPassedOver t := by
  obtain ⟨name, arguments, words⟩ := List.exists_cons_of_ne_nil (words_withoutSemicolon backslash)
  unfold metaRequest? IsPassedOver
  rw [words]
  by_cases known : name ∈ commands
  · have named : ¬∃ other others, name :: arguments = other :: others ∧ other ∉ commands := by
      rintro ⟨_, _, ⟨⟩, unknown⟩
      exact unknown known
    have other : name ≠ "\\c" → name :: arguments ≠ ["\\c"] :=
      fun differs same => differs (List.cons.inj same).1
    simp only [named, false_or]
    simp only [commands, List.mem_cons, List.not_mem_nil, or_false] at known
    rcases known with rfl | rfl | rfl | rfl | rfl
    · exact iff_of_false nofun (other (by decide))
    · exact iff_of_false nofun (other (by decide))
    · refine iff_of_false ?_ (other (by decide))
      cases arguments <;> exact nofun
    · cases arguments with
      | nil => exact iff_of_true rfl rfl
      | cons database others => exact iff_of_false nofun (by simp)
    · exact iff_of_false nofun (other (by decide))
  · refine iff_of_true ?_ (.inl ⟨name, arguments, rfl, known⟩)
    simp only [commands, List.mem_cons, List.not_mem_nil, or_false, not_or] at known
    obtain ⟨l, dt, d, c, q⟩ := known
    simp only [if_neg l, if_neg dt, if_neg d, if_neg c, if_neg q]

/-! ### Input that is none -/

/-- Whether a trimmed text is no statement: it is empty, a command that is passed over, or the start
of a statement that lacks its semicolon. -/
def IsSilent (t : Text) : Prop :=
  t = [] ∨ (t.head? = some (.char '\\') ∧ IsPassedOver t) ∨
    (t.head? ≠ some (.char '\\') ∧ ¬LeavesConsole t ∧ t.getLast? ≠ some (.char ';') ∧
      leadingWord t ∈ leadingWords)

theorem parseTrimmed_eq_none_iff {t : Text} : parseTrimmed t = .ok none ↔ IsSilent t := by
  by_cases visible : t = []
  · exact iff_of_true (by rw [visible]; rfl) (.inl visible)
  by_cases backslash : t.head? = some (.char '\\')
  · have command : parseTrimmed t = .ok (metaRequest? t) := by
      obtain ⟨rest, rfl⟩ := List.head?_eq_some_iff.mp backslash
      rfl
    rw [command, Except.ok.injEq, metaRequest?_eq_none backslash]
    simp [IsSilent, visible, backslash]
  · rw [parseTrimmed_eq_none visible backslash]
    constructor
    · rintro ⟨unended, leading⟩
      refine .inr (.inr ⟨backslash, fun leaves => ?_, unended, leading⟩)
      exact leadingWord_of_isExit (isExit_iff.mpr leaves) leading
    · rintro (empty | ⟨head, -⟩ | ⟨-, -, given⟩)
      · exact absurd empty visible
      · exact absurd head backslash
      · exact given

/-! ### What reading looks at -/

/-- Whether the tokens of a source text hold all that reading them looks at: what stands after them
makes no difference, their numbers are numerals, and each text that is taken from the source covers
at least one token. -/
structure IsSelfContained (source : Text) (tokens : List Token) : Prop where
  bounded : ∀ more : List Token, (∀ t ∈ more.getLast?, t.kind = .stop) →
    request? source (tokens ++ more) = request? source tokens
  integers : ∀ t ∈ tokens, t.kind = .integer → t.value ≠ [] ∧ ∀ c ∈ t.value, c.isDigit = true
  decimals : ∀ t ∈ tokens, t.kind = .decimal → (Numeral.read? t.value).isSome = true
  items : ∀ follow body items, cutItems follow body = .ok items → ∀ item ∈ items, item ≠ []
  sortColumns : ∀ body item sorts, body ≠ [] → Query.sortItem? source body item = .ok sorts →
    (Query.direction? item).2 ≠ []
  references : ∀ body column rest, Query.reference? body = some (column, rest) → column ≠ []

theorem column_ne_nil_of_sortItem? {source : Text} {body item : List Token} {sorts : SortItem}
    (present : body ≠ []) (read : Query.sortItem? source body item = .ok sorts) :
    (Query.direction? item).2 ≠ [] := by
  obtain ⟨t, ts, rfl⟩ := List.exists_cons_of_ne_nil present
  intro empty
  unfold Query.sortItem? at read
  dsimp only at read
  rw [empty] at read
  cases read

theorem column_ne_nil_of_reference? {body column rest : List Token}
    (read : Query.reference? body = some (column, rest)) : column ≠ [] := by
  unfold Query.reference? at read
  split at read
  · split at read
    · cases read
    · split at read <;> cases read <;> simp
  · split at read <;> cases read
    simp
  · cases read

theorem isSelfContained_of_tokens? {source : Text} {tokens : List Token}
    (scanned : tokens? source = .ok tokens) : IsSelfContained source tokens := by
  obtain rfl := Query.scan_of_tokens? scanned
  exact {
    bounded := by
      intro more last
      obtain ⟨inner, stop, scan, ends, free⟩ := Token.scanFrom_inner .start 0 source
      rw [Token.scan, scan, List.append_assoc, List.singleton_append]
      exact request?_append_stop ends free last
    integers := fun t => Token.digits_of_scan
    decimals := fun t member decimal => by
      obtain ⟨_, read, -⟩ := Token.read?_of_scan member decimal
      rw [read]
      rfl
    items := fun follow body items cut => (cutItems_eq_ok_iff.mp cut).present
    sortColumns := fun body item sorts => column_ne_nil_of_sortItem?
    references := fun body column rest => column_ne_nil_of_reference? }

/-! ### What input is -/

theorem dialect_of_parse {raw : Text} {statement : Statement}
    (read : parse raw = .ok (some statement)) :
    statement.dialect = .postgres ↔ raw.trim.head? = some (.char '\\') := by
  unfold dialect Dialect.of
  rw [(parse_eq_some_iff.mp read).1, Text.trimLeft_eq_self raw.trim_isTrimmed.1]
  split <;> simp_all

/-- What keeps input from being read is a number that is too long. There is no statement exactly
where the input is silent. A statement keeps the trimmed input, which gives the same statement
again, and a backslash in front decides its dialect and is never refused. -/
theorem parse_classifies (raw : Text) :
    (∀ source tokens, tokens? source = .ok tokens → IsSelfContained source tokens) ∧
    (raw.trim ≠ [] → raw.trim.lower.words ≠ []) ∧
    (raw.trim.head? = some (.char '\\') → (withoutSemicolon raw.trim).words ≠ []) ∧
    (∀ what, parse raw = .error what → what.IsOf (Token.scan (withoutSemicolon raw.trim))) ∧
    (parse raw = .ok none ↔ IsSilent raw.trim) ∧
    ∀ statement, parse raw = .ok (some statement) →
      statement.command = raw.trim ∧
      (statement.dialect = .postgres ↔ raw.trim.head? = some (.char '\\')) ∧
      (raw.trim.head? = some (.char '\\') →
        ∀ message token, statement.request ≠ .refused message token) ∧
      parse statement.command = .ok (some statement) := by
  refine ⟨fun source tokens => isSelfContained_of_tokens?,
    fun visible => Text.words_lower raw.trim_isTrimmed visible, words_withoutSemicolon,
    fun what => isOf_of_parse, ?_, ?_⟩
  · rw [parse_eq_none, parseTrimmed_eq_none_iff]
  · intro statement read
    obtain ⟨command, request⟩ := parse_eq_some_iff.mp read
    refine ⟨command, dialect_of_parse read, fun backslash message token refused => ?_, ?_⟩
    · obtain ⟨rest, same⟩ := List.head?_eq_some_iff.mp backslash
      rw [same, refused] at request
      simpa using metaRequest?_cases (Except.ok.inj request)
    · rw [command, parse, Text.trim_eq_self raw.trim_isTrimmed]
      exact read

end SqlConsole.Statement
