import SqlConsole.Proofs.Statement.Classification

/-!
# Statements before their semicolon

Input in words that is accepted is what is read before the semicolon at its end (`read?_of_parse`).
What is read starts with one of the words that start a statement (`leads_of_read?`), and with the
word for a query if it is a selection (`ofTokens?_of_read?`), whose clauses then have tokens of the
input (`exists_reading`).
-/

namespace SqlConsole

def Request.IsRefused (request : Request) : Prop :=
  ∃ message token, request = .refused message token

namespace Statement

variable {text source : Text} {statement : Statement} {request : Request} {selection : Selection}

/-! ### Input in words -/

/-- A statement is a command with a backslash, the word that leaves the console, what is read before
a semicolon, or refused. -/
theorem cases_of_parse (read : parse text = .ok (some statement)) :
    (text.trim.head? = some (.char '\\') ∧ metaRequest? text.trim = some statement.request) ∨
      (LeavesConsole text.trim ∧ statement.request = .exit) ∨
      (∃ body, text.trim = body ++ [.char ';'] ∧ read? body = .ok statement.request) ∨
      statement.request.IsRefused := by
  obtain ⟨-, found⟩ := parse_eq_some_iff.mp read
  unfold parseTrimmed at found
  split at found
  · cases found
  · rename_i same
    exact .inl ⟨by rw [same]; rfl, Except.ok.inj found⟩
  split at found
  · rename_i exit
    exact .inr (.inl ⟨isExit_iff.mp exit, (Option.some.inj (Except.ok.inj found)).symm⟩)
  split at found
  · rename_i ended
    obtain ⟨request, answered, same⟩ := map_ok_iff.mp found
    obtain rfl := Option.some.inj same
    rcases parseEnded_eq_ok_iff.mp answered with parsed | ⟨fault, -, -, refused⟩
    · exact .inr (.inr (.inl ⟨_, (List.dropLast_append_getLast? _ ended).symm, parsed⟩))
    · obtain ⟨message, token, told⟩ := refusal_refuses text.trim fault
      exact .inr (.inr (.inr ⟨message, token, refused.trans told⟩))
  split at found
  · cases found
  · exact .inr (.inr (.inr ⟨_, _, (Option.some.inj (Except.ok.inj found)).symm⟩))

theorem read?_of_parse (read : parse text = .ok (some statement))
    (plain : text.trim.head? ≠ some (.char '\\')) (stays : ¬LeavesConsole text.trim)
    (accepted : ¬statement.request.IsRefused) :
    ∃ body, text.trim = body ++ [.char ';'] ∧ read? body = .ok statement.request := by
  rcases cases_of_parse read with ⟨backslash, -⟩ | ⟨leaves, -⟩ | given | refused
  · exact absurd backslash plain
  · exact absurd leaves stays
  · exact given
  · exact absurd refused accepted

theorem read?_of_selection (read : parse text = .ok (some statement))
    (query : statement.request = .select selection) :
    ∃ body, text.trim = body ++ [.char ';'] ∧ read? body = .ok (.select selection) := by
  have given := cases_of_parse read
  rw [query] at given
  rcases given with ⟨-, command⟩ | ⟨-, exit⟩ | given | ⟨message, token, refused⟩
  · exact absurd command metaRequest?_ne_select
  · cases exit
  · exact given
  · cases refused

theorem parse_of_read? {body : Text} (whole : text.trim = body ++ [.char ';'])
    (plain : text.trim.head? ≠ some (.char '\\')) (stays : ¬LeavesConsole text.trim)
    (read : read? body = .ok request) : parse text = .ok (some ⟨text.trim, request⟩) := by
  have visible : text.trim ≠ [] := by simp [whole]
  have ended : text.trim.getLast? = some (.char ';') := by rw [whole, List.getLast?_concat]
  have before : text.trim.dropLast = body := by rw [whole, List.dropLast_concat]
  rw [parse, parseTrimmed_plain visible plain, if_neg (mt isExit_iff.mp stays), if_pos ended,
    parseEnded_eq_ok_iff.mpr (.inl (before.symm ▸ read))]
  rfl

/-! ### Tokens -/

theorem tokens?_eq_ok_iff {tokens : List Token} :
    tokens? source = .ok tokens ↔
      tokens = Token.scan source ∧ ∀ t ∈ Token.scan source, t.kind ≠ .stray := by
  unfold tokens?
  dsimp only
  cases found : Token.firstStray? (Token.scan source) with
  | none =>
    have lexed : ∀ t ∈ Token.scan source, t.kind ≠ .stray := by
      simpa [Token.firstStray?] using found
    exact ⟨fun read => ⟨(Except.ok.inj read).symm, lexed⟩, fun given => given.1 ▸ rfl⟩
  | some t =>
    have stray : t.kind = .stray := by simpa using List.find?_some found
    simpa using fun _ => ⟨t, List.mem_of_find?_eq_some found, stray⟩

/-! ### First tokens -/

theorem leads_of_request? {tokens : List Token} (read : request? source tokens = .ok request) :
    ∃ first rest k, tokens = first :: rest ∧ first.kind = .keyword k ∧
      k.spelling ∈ leadingWords := by
  unfold request? at read
  split at read
  · cases read
  · rename_i t ts
    split at read
    case h_11 => cases read
    all_goals exact ⟨t, ts, _, rfl, ‹_›, by decide⟩

theorem leads_of_read? (read : read? source = .ok request) :
    ∃ first rest k, tokens? source = .ok (first :: rest) ∧ first.kind = .keyword k ∧
      k.spelling ∈ leadingWords := by
  obtain ⟨tokens, scanned, asked⟩ := bind_ok_iff.mp read
  obtain ⟨first, rest, k, rfl, word, leading⟩ := leads_of_request? asked
  exact ⟨first, rest, k, scanned, word, leading⟩

theorem show?_ne_select {tokens : List Token} : show? tokens ≠ .ok (.select selection) := by
  intro read
  unfold show? at read
  split at read
  · cases read
  · split at read
    · cases complete?_eq_ok read
    · cases complete?_eq_ok read
    · obtain ⟨_, -, -, ⟨⟩⟩ := named?_eq_ok read
    · cases read

theorem ofTokens?_of_request? {tokens : List Token}
    (read : request? source tokens = .ok (.select selection)) :
    ∃ first rest, tokens = first :: rest ∧ first.kind = .keyword .select ∧
      Query.ofTokens? source rest = .ok selection := by
  unfold request? at read
  split at read
  · cases read
  · rename_i t ts
    split at read
    case h_1 word =>
      rw [← bind_pure_comp] at read
      obtain ⟨_, query, ⟨⟩⟩ := bind_ok_iff.mp read
      exact ⟨t, ts, rfl, word, query⟩
    case h_2 => exact absurd read show?_ne_select
    case h_3 | h_4 | h_5 => obtain ⟨_, -, -, ⟨⟩⟩ := named?_eq_ok read
    case h_9 | h_10 => cases tableWrite?_eq_ok read
    all_goals cases read

/-- A selection is read from the tokens after the word for a query. The last of them marks the
end. -/
theorem ofTokens?_of_read? (read : read? source = .ok (.select selection)) :
    ∃ first inner stop, tokens? source = .ok (first :: (inner ++ [stop])) ∧
      first.kind = .keyword .select ∧ stop.kind = .stop ∧ (∀ t ∈ inner, t.kind ≠ .stop) ∧
      Query.ofTokens? source (inner ++ [stop]) = .ok selection := by
  obtain ⟨tokens, scanned, asked⟩ := bind_ok_iff.mp read
  obtain ⟨first, rest, rfl, word, query⟩ := ofTokens?_of_request? asked
  obtain ⟨inner, stop, rfl, ends, free⟩ := Query.tokens_of_scan scanned (by simp [word])
  exact ⟨first, inner, stop, scanned, word, ends, free, query⟩

end Statement

/-! ### Tokens of clauses -/

theorem Query.body_subset {d : Int} {tokens columns : List Token} {sections : List Section}
    (layout : Layout d tokens columns sections) :
    ∀ s ∈ sections, s.body ⊆ tokens := by
  induction layout with
  | last free => exact List.forall_mem_nil _
  | @clause d before joined rest body t clause sections free outside opens joins others ih =>
    have inside : rest ⊆ before ++ t :: (joined ++ rest) := fun u member => by simp [member]
    rw [List.forall_mem_cons]
    refine ⟨?_, fun s member => List.Subset.trans (ih s member) inside⟩
    -- The tokens before the first clause of a layout are tokens of it.
    have front : body ⊆ rest := by
      cases others with
      | last free => exact List.Subset.refl _
      | clause free outside opens joins others => exact List.subset_append_left _ _
    exact List.Subset.trans front inside

theorem Statement.exists_reading {text : Text} {statement : Statement} {selection : Selection}
    (read : parse text = .ok (some statement)) (query : statement.request = .select selection) :
    ∃ source columns sections, Query.Reading source columns sections selection ∧
      ∀ s ∈ sections, s.body ⊆ Token.scan source := by
  obtain ⟨source, -, body⟩ := read?_of_selection read query
  obtain ⟨first, inner, stop, scanned, -, ends, free, given⟩ := ofTokens?_of_read? body
  obtain ⟨columns, sections, cut, reading⟩ := (Query.ofTokens?_eq_ok_iff ends free).mp given
  refine ⟨source, columns, sections, reading, fun s member t inside => ?_⟩
  have inInner := Query.body_subset (layout_of_cutClauses free cut).1 s member inside
  simp [Query.scan_of_tokens? scanned, inInner]

end SqlConsole
