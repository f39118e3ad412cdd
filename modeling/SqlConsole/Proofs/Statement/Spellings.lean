import SqlConsole.Proofs.Statement.Classification
import SqlConsole.Proofs.Statement.Phrase

/-!
# Spellings of a request

What a command with a backslash asks for can be said in words too. Each spelling of a request is
read as this request (`parse_of_spells`). A statement in words is refused with any further token
before its semicolon (`parse_further`).
-/

namespace SqlConsole

open Rendering (IsName blanks exactly)

/-! ### Words of a request -/

inductive IsCommand : List Text → Request → Prop
  | databases : IsCommand ["\\l"] .showDatabases
  | tables : IsCommand ["\\dt"] .showTables
  | tablesInShort : IsCommand ["\\d"] .showTables
  | use {name : Text} (named : IsName name) : IsCommand ["\\c", name] (.useDatabase name)
  | describe {name : Text} (named : IsName name) : IsCommand ["\\d", name] (.describeTable name)
  | leave : IsCommand ["\\q"] .exit

/-- The words of a statement, those that are reserved in either case. -/
inductive IsWorded : List Text → Request → Prop
  | databases {verb noun : Text} (shows : Keyword.show.IsSpelling verb)
    (databases : Keyword.databases.IsSpelling noun) : IsWorded [verb, noun] .showDatabases
  | tables {verb noun : Text} (shows : Keyword.show.IsSpelling verb)
    (tables : Keyword.tables.IsSpelling noun) : IsWorded [verb, noun] .showTables
  | use {verb name : Text} (uses : Keyword.use.IsSpelling verb) (named : IsName name) :
    IsWorded [verb, name] (.useDatabase name)
  | describe {verb name : Text}
    (describes : Keyword.describe.IsSpelling verb ∨ Keyword.desc.IsSpelling verb)
    (named : IsName name) : IsWorded [verb, name] (.describeTable name)
  | columns {verb noun name : Text} (shows : Keyword.show.IsSpelling verb)
    (columns : Keyword.columns.IsSpelling noun) (named : IsName name) :
    IsWorded [verb, noun, name] (.describeTable name)
  | columnsOf {verb noun joint name : Text} (shows : Keyword.show.IsSpelling verb)
    (columns : Keyword.columns.IsSpelling noun)
    (joins : Keyword.from.IsSpelling joint ∨ Keyword.in.IsSpelling joint) (named : IsName name) :
    IsWorded [verb, noun, joint, name] (.describeTable name)

/-- The end of a statement: a semicolon, with blanks in front. -/
def Rendering.mark : Language CodePoint := blanks * exactly [.char ';']

open Rendering (mark)

/-- Whether a text is a spelling of a request: a command with a backslash, a statement in words, or
the word that leaves the console. Only the statement needs its semicolon. -/
inductive Spells (request : Request) : Text → Prop
  | command {ws : List Text} {b t m e : Text} (words : IsCommand ws request)
    (phrase : IsPhrase ws t) (before : b ∈ blanks) (ends : m ∈ 1 + mark) (after : e ∈ blanks) :
    Spells request (b ++ (t ++ m ++ e))
  | statement {ws : List Text} {b t m e : Text} (words : IsWorded ws request)
    (phrase : IsPhrase ws t) (before : b ∈ blanks) (ends : m ∈ mark) (after : e ∈ blanks) :
    Spells request (b ++ (t ++ m ++ e))
  | leave {b t m e : Text} (leaves : request = .exit) (spelt : Keyword.exit.IsSpelling t)
    (before : b ∈ blanks) (ends : m ∈ 1 + mark) (after : e ∈ blanks) :
    Spells request (b ++ (t ++ m ++ e))

namespace Statement

variable {request : Request} {ws : List Text} {t : Text}

/-! ### Semicolons -/

theorem isTrimmed_append_mark {m : Text} (visible : t ≠ []) (trimmed : t.IsTrimmed)
    (ends : m ∈ 1 + mark) : Text.IsTrimmed (t ++ m) := by
  rcases ends with rfl | ⟨c, -, _, rfl, rfl⟩
  · rwa [List.append_nil]
  · refine ⟨?_, ?_⟩
    · rw [List.head?_append_of_ne_nil _ visible]
      exact trimmed.1
    · dsimp only
      rw [← List.append_assoc, List.getLast?_concat]
      rintro _ ⟨⟩
      decide

theorem withoutSemicolon_append_mark {m : Text} (unended : t.getLast? ≠ some (.char ';'))
    (ends : m ∈ 1 + mark) : ∃ c ∈ blanks, withoutSemicolon (t ++ m) = t ++ c := by
  unfold withoutSemicolon
  rcases ends with rfl | ⟨c, blank, _, rfl, rfl⟩
  · refine ⟨[], fun _ member => absurd member List.not_mem_nil, ?_⟩
    rw [List.append_nil, if_neg unended]
  · refine ⟨c, blank, ?_⟩
    dsimp only
    rw [← List.append_assoc, List.getLast?_concat, if_pos rfl, List.dropLast_concat]

/-! ### Commands with a backslash -/

theorem words_isCommand (words : IsCommand ws request) :
    ∀ w ∈ ws, w ≠ [] ∧ ∀ c ∈ w, c.isBlank = false ∧ c ≠ ';' := by
  have name : ∀ name, IsName name → name ≠ [] ∧ ∀ c ∈ name, c.isBlank = false ∧ c ≠ ';' := by
    intro name named
    refine ⟨?_, fun c member => ⟨named.solid c member, ?_⟩⟩
    · obtain ⟨⟨c, cs, rfl, -⟩, -⟩ := named
      exact List.cons_ne_nil c cs
    · rintro rfl
      exact absurd (named.word _ member) (by decide)
  cases words with
  | databases | tables | tablesInShort | leave => decide
  | use named | describe named =>
    exact List.forall_mem_cons.mpr ⟨by decide, by simpa using name _ named⟩

theorem metaRequest?_of_words {command : Text} (words : IsCommand ws request)
    (cut : (withoutSemicolon command).words = ws) : metaRequest? command = some request := by
  unfold metaRequest?
  rw [cut]
  cases words <;> rfl

theorem parse_command {b m e : Text} (words : IsCommand ws request) (phrase : IsPhrase ws t)
    (before : b ∈ blanks) (ends : m ∈ 1 + mark) (after : e ∈ blanks) :
    parse (b ++ (t ++ m ++ e)) = .ok (some ⟨t ++ m, request⟩) := by
  have plain := words_isCommand words
  have last := phrase.mem_of_getLast? fun w member => (plain w member).1
  obtain ⟨rest, rfl⟩ : ∃ rest, t = .char '\\' :: rest := by
    cases words <;> obtain ⟨rest, rfl⟩ := phrase.exists_append <;> exact ⟨_, rfl⟩
  have trimmed : Text.IsTrimmed (.char '\\' :: rest) := by
    refine ⟨?_, fun c ended => ?_⟩
    · rintro c ⟨⟩
      decide
    · obtain ⟨w, member, inside⟩ := last c ended
      exact ((plain w member).2 c inside).1
  have unended : (CodePoint.char '\\' :: rest).getLast? ≠ some (.char ';') := by
    intro ended
    obtain ⟨w, member, inside⟩ := last _ ended
    exact ((plain w member).2 _ inside).2 rfl
  obtain ⟨c, blank, cut⟩ := withoutSemicolon_append_mark unended ends
  have found : metaRequest? (.char '\\' :: rest ++ m) = some request := by
    apply metaRequest?_of_words words
    rw [cut]
    exact phrase.words (fun w member =>
      ⟨(plain w member).1, fun c inside => ((plain w member).2 c inside).1⟩) blank
  refine parse_eq_some_iff.mpr ⟨?_, ?_⟩ <;>
    rw [Text.trim_framed before (isTrimmed_append_mark (by simp) trimmed ends) after]
  exact congrArg Except.ok found

/-! ### The word that leaves the console -/

theorem sameLetter_of_isSpelling {k : Keyword} (spelt : k.IsSpelling t) :
    List.Forall₂ (fun a b => a.sameLetter b = true) k.spelling t := by
  obtain ⟨s, rfl, same⟩ := spelt
  have letters := Keyword.letters_of_isSpelling same
  rw [← same, List.map_map, List.forall₂_map_left_iff, List.forall₂_map_right_iff,
    List.forall₂_same]
  exact fun ch member => CodePoint.forall_ascii
    (p := fun ch => CodePoint.sameLetter ch.toLower ch = true) (by decide +kernel)
    (letters ch member).1

theorem parse_exit {b m e : Text} (spelt : Keyword.exit.IsSpelling t) (before : b ∈ blanks)
    (ends : m ∈ 1 + mark) (after : e ∈ blanks) :
    parse (b ++ (t ++ m ++ e)) = .ok (some ⟨t ++ m, .exit⟩) := by
  have leaves : LeavesConsole (t ++ m) := by
    have letters := sameLetter_of_isSpelling spelt
    rcases ends with rfl | ⟨c, blank, _, rfl, rfl⟩
    · exact ⟨t, [], [], rfl, letters, by simp [Text.AllBlank], .inl rfl⟩
    · exact ⟨t, c, _, rfl, letters, blank, .inr rfl⟩
  obtain ⟨c, cs, rfl, start, inner⟩ := spelt.isWord
  have word := (Bool.and_eq_true_iff.mp start).1
  have solid : ∀ d ∈ c :: cs, d.isBlank = false :=
    List.forall_mem_cons.mpr ⟨CodePoint.isBlank_of_isWord word,
      fun d inside => CodePoint.isBlank_of_isWord (inner d inside)⟩
  have trimmed : Text.IsTrimmed (c :: cs) :=
    ⟨fun d head => solid d (List.mem_of_mem_head? head),
      fun d last => solid d (List.mem_of_getLast? last)⟩
  have plain : (c :: cs ++ m).head? ≠ some (.char '\\') := by
    rintro ⟨⟩
    exact absurd word (by decide)
  unfold parse
  rw [Text.trim_framed before (isTrimmed_append_mark (by simp) trimmed ends) after,
    parseTrimmed_plain (by simp) plain,
    if_pos (isExit_iff.mpr leaves)]
  rfl

/-! ### Statements in words -/

theorem isWord_of_isWorded (words : IsWorded ws request) : ∀ w ∈ ws, Text.IsWord w := by
  cases words with
  | databases verb noun | tables verb noun =>
    simpa using ⟨verb.isWord, noun.isWord⟩
  | use verb named => simpa using ⟨verb.isWord, named.1⟩
  | describe verb named =>
    simpa using ⟨verb.elim Keyword.IsSpelling.isWord Keyword.IsSpelling.isWord, named.1⟩
  | columns verb noun named => simpa using ⟨verb.isWord, noun.isWord, named.1⟩
  | columnsOf verb noun joint named =>
    simpa using ⟨verb.isWord, noun.isWord,
      joint.elim Keyword.IsSpelling.isWord Keyword.IsSpelling.isWord, named.1⟩

/-- The words of a statement are complete: with any tokens after them they ask for their request
exactly if no token is left. -/
theorem request?_of_isWorded {tokens : List Token} (words : IsWorded ws request)
    (same : List.Forall₂ (fun token w => token.kind = Token.wordKind w ∧ token.value = w)
      tokens ws) (source : Text) (rest : List Token) :
    request? source (tokens ++ rest) = complete? request rest := by
  cases words with
  | databases verb noun | tables verb noun =>
    obtain _ | ⟨⟨first, -⟩, _ | ⟨⟨second, -⟩, ⟨⟩⟩⟩ := same
    rw [verb.wordKind] at first
    rw [noun.wordKind] at second
    simp [request?, show?, first, second]
  | use verb named =>
    obtain _ | ⟨⟨first, -⟩, _ | ⟨⟨second, rfl⟩, ⟨⟩⟩⟩ := same
    rw [verb.wordKind] at first
    rw [Rendering.wordKind_of_isName named] at second
    simp [request?, named?, first, second]
  | describe verb named =>
    obtain _ | ⟨⟨first, -⟩, _ | ⟨⟨second, rfl⟩, ⟨⟩⟩⟩ := same
    rw [Rendering.wordKind_of_isName named] at second
    rcases verb with verb | verb <;> rw [verb.wordKind] at first <;>
      simp [request?, named?, first, second]
  | columns verb noun named =>
    obtain _ | ⟨⟨first, -⟩, _ | ⟨⟨second, -⟩, _ | ⟨⟨third, rfl⟩, ⟨⟩⟩⟩⟩ := same
    rw [verb.wordKind] at first
    rw [noun.wordKind] at second
    rw [Rendering.wordKind_of_isName named] at third
    simp [request?, show?, skipOf, named?, first, second, third]
  | columnsOf verb noun joint named =>
    obtain _ | ⟨⟨first, -⟩, _ | ⟨⟨second, -⟩, _ | ⟨⟨third, -⟩, _ | ⟨⟨fourth, rfl⟩, ⟨⟩⟩⟩⟩⟩ := same
    rw [verb.wordKind] at first
    rw [noun.wordKind] at second
    rw [Rendering.wordKind_of_isName named] at fourth
    rcases joint with joint | joint <;> rw [joint.wordKind] at third <;>
      simp [request?, show?, skipOf, named?, first, second, third, fourth]

theorem leadingWord_of_isWorded (words : IsWorded ws request) (phrase : IsPhrase ws t)
    (rest : Text) : leadingWord (t ++ rest) ∈ leadingWords := by
  have leads : ∀ (k : Keyword) (verb : Text) (others : List Text), k.IsSpelling verb →
      k.spelling ∈ leadingWords → others ≠ [] → IsPhrase (verb :: others) t →
      leadingWord (t ++ rest) ∈ leadingWords := by
    intro k verb others spelt known more phrase
    cases phrase with
    | last => exact absurd rfl more
    | next _ apart inner =>
      rw [List.append_assoc, List.append_assoc, Rendering.leadingWord_word spelt apart]
      exact known
  cases words with
  | databases verb | tables verb | columns verb | columnsOf verb =>
    exact leads .show _ _ verb (by decide) (by simp) phrase
  | use verb => exact leads .use _ _ verb (by decide) (by simp) phrase
  | describe verb =>
    rcases verb with verb | verb
    · exact leads .describe _ _ verb (by decide) (by simp) phrase
    · exact leads .desc _ _ verb (by decide) (by simp) phrase

theorem scan_of_isWorded (words : IsWorded ws request) (phrase : IsPhrase ws t) {more : Text}
    (edge : ∀ c ∈ more.head?, c.isWord = false) :
    ∃ tokens, Token.scan (t ++ more) = tokens ++ Token.scanFrom (Position.start.after t) 0 more ∧
      (∀ token ∈ tokens, token.kind ≠ .stray) ∧
      ∀ source rest, request? source (tokens ++ rest) = complete? request rest := by
  obtain ⟨tokens, scanned, same⟩ := phrase.scanFrom (isWord_of_isWorded words) .start edge
  refine ⟨tokens, scanned, fun token member => ?_, request?_of_isWorded words same⟩
  obtain ⟨place, inside, rfl⟩ := List.getElem_of_mem member
  have kind := (same.get inside (same.length_eq ▸ inside)).1
  exact fun stray => Token.wordKind_ne_stray _ (kind.symm.trans stray)

theorem parse_worded {b m e : Text} (words : IsWorded ws request) (phrase : IsPhrase ws t)
    (before : b ∈ blanks) (ends : m ∈ mark) (after : e ∈ blanks) :
    parse (b ++ (t ++ m ++ e)) = .ok (some ⟨t ++ m, request⟩) := by
  obtain ⟨c, blank, _, rfl, rfl⟩ := ends
  have edge : ∀ d ∈ List.head? c, d.isWord = false :=
    fun d head => CodePoint.isWord_of_isBlank (blank d (List.mem_of_mem_head? head))
  obtain ⟨tokens, scanned, clean, asks⟩ := scan_of_isWorded words phrase edge
  have ending := Token.scanFrom_blank (Position.start.after t) blank []
  rw [List.append_nil] at ending
  rw [ending, Token.scanFrom] at scanned
  have read : read? (t ++ c) = .ok request := by
    unfold read?
    rw [Rendering.tokens?_of_scan scanned
      (List.forall_mem_append.mpr ⟨clean, by simp⟩)]
    exact asks _ _
  have parsed := parse_of_leading before after
    (by rw [List.append_assoc]; exact leadingWord_of_isWorded words phrase _) (t := t ++ c)
  have answered : parseEnded (t ++ c ++ [.char ';']) = .ok request :=
    parseEnded_eq_ok_iff.mpr (.inl (by rwa [List.dropLast_concat]))
  rw [← List.append_assoc t c, parsed, answered]
  rfl

/-! ### Further tokens -/

theorem read?_further (words : IsWorded ws request) (phrase : IsPhrase ws t) {more : Text}
    (edge : ∀ c ∈ more.head?, c.isWord = false)
    (further : ∃ token ∈ Token.scan more, token.kind ≠ .stop) :
    ∃ fault, read? (t ++ more) = .error fault ∧ fault.kind ≠ .uncaught := by
  obtain ⟨tokens, scanned, -, asks⟩ := scan_of_isWorded words phrase edge
  obtain ⟨first, others, rest, plain⟩ : ∃ first others,
      Token.scanFrom (Position.start.after t) 0 more = first :: others ∧ first.kind ≠ .stop := by
    obtain ⟨inner, stop, rest, ends, free⟩ :=
      Token.scanFrom_inner (Position.start.after t) 0 more
    cases inner with
    | cons first inner => exact ⟨first, inner ++ [stop], rest, free first List.mem_cons_self⟩
    | nil =>
      obtain ⟨token, member, plain⟩ := further
      have kinds := List.mem_map_of_mem (f := Token.kind) member
      rw [Token.scan, Token.scanFrom_kinds .start (Position.start.after t), rest] at kinds
      exact absurd (List.mem_singleton.mp kinds) (ends ▸ plain)
  unfold read?
  cases found : tokens? (t ++ more) with
  | error fault =>
    refine ⟨fault, rfl, fun uncaught => ?_⟩
    obtain ⟨what, rfl⟩ := Fault.kind_eq_uncaught.mp uncaught
    exact tokens?_ne_overlong found
  | ok all =>
    rw [← Query.scan_of_tokens? found, scanned, rest]
    exact ⟨.trailing first, (asks _ _).trans (if_neg plain), by simp [Fault.kind]⟩

theorem parse_further {b e : Text} (words : IsWorded ws request) (phrase : IsPhrase ws t)
    {more : Text} (edge : ∀ c ∈ more.head?, c.isWord = false)
    (further : ∃ token ∈ Token.scan more, token.kind ≠ .stop)
    (before : b ∈ blanks) (after : e ∈ blanks) :
    ∃ message token, parse (b ++ (t ++ more ++ [.char ';'] ++ e)) =
      .ok (some ⟨t ++ more ++ [.char ';'], .refused message token⟩) := by
  obtain ⟨fault, read, caught⟩ := read?_further words phrase edge further
  have parsed := parse_of_leading before after
    (by rw [List.append_assoc]; exact leadingWord_of_isWorded words phrase _) (t := t ++ more)
  obtain ⟨message, token, refused⟩ := refusal_refuses (t ++ more ++ [.char ';']) fault
  have answered : parseEnded (t ++ more ++ [.char ';']) = .ok (.refused message token) :=
    parseEnded_eq_ok_iff.mpr (.inr ⟨fault, by rwa [List.dropLast_concat], caught, refused.symm⟩)
  rw [answered] at parsed
  exact ⟨message, token, parsed⟩

/-! ### Spellings of one request -/

theorem parse_of_spells (spelt : Spells request t) :
    parse t = .ok (some ⟨t.trim, request⟩) := by
  obtain ⟨command, parsed⟩ : ∃ command, parse t = .ok (some ⟨command, request⟩) := by
    cases spelt with
    | command words phrase before ends after =>
      exact ⟨_, parse_command words phrase before ends after⟩
    | statement words phrase before ends after =>
      exact ⟨_, parse_worded words phrase before ends after⟩
    | leave leaves spelt before ends after =>
      subst leaves
      exact ⟨_, parse_exit spelt before ends after⟩
  rw [parsed, ← (parse_eq_some_iff.mp parsed).1]

end Statement

end SqlConsole
