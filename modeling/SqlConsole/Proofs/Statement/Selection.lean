import SqlConsole.Statement.Parse
import SqlConsole.Proofs.Query.Grammar
import SqlConsole.Proofs.Statement.Unfinished
import SqlConsole.Proofs.Text.Words
import SqlConsole.Proofs.Token.Partition

/-!
# What statements that were read hold

A selection in a statement comes from the tokens of a query (`Statement.ofTokens?_of_parse`), its
condition has one of the operators that exist (`Statement.operator_of_parse`), and a database that a
statement changes to has a name (`Statement.database_ne_nil`).
-/

namespace SqlConsole

namespace Query

variable {source : Text} {tokens : List Token} {condition : Condition}

theorem operator?_isKnown {kind : TokenKind} {op : Operator} (read : operator? kind = some op) :
    op.isKnown = true := by
  unfold operator? at read
  split at read <;> cases read <;> rfl

theorem comparison?_isKnown (read : comparison? source tokens = some (.ok condition)) :
    condition.operator.isKnown = true := by
  unfold comparison? at read
  obtain ⟨⟨column, rest⟩, -, read⟩ := Option.bind_eq_some_iff.mp read
  cases rest with
  | nil => cases read
  | cons t rest =>
    obtain ⟨op, operator, read⟩ := Option.bind_eq_some_iff.mp read
    obtain ⟨literal, -, read⟩ := Option.bind_eq_some_iff.mp read
    obtain ⟨_, rfl, ⟨⟩⟩ := map_ok_iff.mp (Option.some.inj read)
    exact operator?_isKnown operator

theorem condition?_isKnown (read : condition? source tokens = some (.ok condition)) :
    condition.operator.isKnown = true := by
  induction tokens with
  | nil => cases read
  | cons t tokens ih =>
    rw [condition?] at read
    split at read
    · rename_i found
      cases read
      exact comparison?_isKnown found
    · exact ih read

theorem ofTokens?_isKnown {selection : Selection}
    (read : ofTokens? source tokens = .ok selection) :
    ∀ condition ∈ selection.condition, condition.operator.isKnown = true := by
  unfold ofTokens? at read
  obtain ⟨⟨columns, sections⟩, -, read⟩ := bind_ok_iff.mp read
  dsimp only at read
  split at read
  · cases read
  simp only [bind_ok_iff, filterClause_iff] at read
  obtain ⟨-, -, -, -, found, filtered, -, -, -, -, -, -, -, -, ⟨⟩⟩ := read
  intro condition present
  obtain rfl := Option.join_eq_some_iff.mp present
  generalize bodyOf .where sections = body at filtered
  cases filtered with
  | some filter => exact condition?_isKnown filter.2

end Query

def Request.database? : Request → Option Text
  | .useDatabase name => some name
  | _ => none

namespace Statement

variable {text : Text} {statement : Statement} {selection : Selection}

/-! ### Requests of a statement without its semicolon -/

theorem complete?_eq_ok {request result : Request} {tokens : List Token}
    (read : complete? request tokens = .ok result) : result = request := by
  unfold complete? at read
  split at read
  · exact (Except.ok.inj read).symm
  · split at read
    · exact (Except.ok.inj read).symm
    · cases read

theorem named?_eq_ok {expectation : Expectation} {request : Text → Request} {result : Request}
    {tokens : List Token} (read : named? expectation request tokens = .ok result) :
    ∃ t ∈ tokens, t.kind = .identifier ∧ result = request t.value := by
  unfold named? at read
  split at read
  · cases read
  · split at read
    · rename_i name
      exact ⟨_, List.mem_cons_self, name, complete?_eq_ok read⟩
    · cases read

theorem tableWrite?_eq_ok {expectation : Expectation} {operation : WriteOperation}
    {result : Request} {tokens : List Token}
    (read : tableWrite? expectation operation tokens = .ok result) : result = .write operation := by
  unfold tableWrite? at read
  split at read
  · cases read
  · split at read
    · exact (Except.ok.inj read).symm
    · cases read

/-- Whether tokens hold what a request names: the query of a selection, the database that is
changed to. -/
def Holds (source : Text) (tokens : List Token) : Request → Prop
  | .select selection => ∃ rest, Query.ofTokens? source rest = .ok selection
  | .useDatabase name => ∃ t ∈ tokens, t.kind = .identifier ∧ t.value = name
  | _ => True

theorem holds_of_show? {request : Request} {source : Text} {tokens held : List Token}
    (read : show? tokens = .ok request) : Holds source held request := by
  unfold show? at read
  split at read
  · cases read
  · split at read
    · rw [complete?_eq_ok read]
      trivial
    · rw [complete?_eq_ok read]
      trivial
    · obtain ⟨t, -, -, rfl⟩ := named?_eq_ok read
      trivial
    · cases read

theorem holds_of_request? {request : Request} {source : Text} {tokens : List Token}
    (read : request? source tokens = .ok request) : Holds source tokens request := by
  unfold request? at read
  split at read
  · cases read
  · rename_i t ts
    split at read
    case h_1 =>
      rw [← bind_pure_comp] at read
      obtain ⟨selection, query, ⟨⟩⟩ := bind_ok_iff.mp read
      exact ⟨ts, query⟩
    case h_2 => exact holds_of_show? read
    case h_3 =>
      obtain ⟨name, member, identifier, rfl⟩ := named?_eq_ok read
      exact ⟨name, List.mem_cons_of_mem t member, identifier, rfl⟩
    case h_4 | h_5 =>
      obtain ⟨name, -, -, rfl⟩ := named?_eq_ok read
      trivial
    case h_6 | h_7 | h_8 =>
      cases read
      trivial
    case h_9 | h_10 =>
      obtain rfl := tableWrite?_eq_ok read
      trivial
    case h_11 => cases read

/-! ### Requests of input -/

theorem metaRequest?_cases {command : Text} {request : Request}
    (read : metaRequest? command = some request) :
    request = .showDatabases ∨ request = .showTables ∨ request = .exit ∨
      (∃ table, request = .describeTable table) ∨
      ∃ database ∈ (withoutSemicolon command).words, request = .useDatabase database := by
  unfold metaRequest? at read
  split at read
  · cases read
  rename_i name arguments words
  split at read
  · exact .inl (Option.some.inj read).symm
  split at read
  · exact .inr (.inl (Option.some.inj read).symm)
  split at read
  · split at read
    · exact .inr (.inl (Option.some.inj read).symm)
    · exact .inr (.inr (.inr (.inl ⟨_, (Option.some.inj read).symm⟩)))
  split at read
  · obtain ⟨database, head, rfl⟩ := Option.map_eq_some_iff.mp read
    have member := List.mem_cons_of_mem name (List.mem_of_mem_head? head)
    exact .inr (.inr (.inr (.inr ⟨database, words ▸ member, rfl⟩)))
  split at read
  · exact .inr (.inr (.inl (Option.some.inj read).symm))
  · cases read

theorem metaRequest?_ne_select {command : Text} :
    metaRequest? command ≠ some (.select selection) := by
  intro read
  simpa using metaRequest?_cases read

theorem refusal_refuses (t : Text) (fault : Fault) :
    ∃ message token, refusal t fault = .refused message token := by
  unfold refusal
  split <;> exact ⟨_, _, rfl⟩

/-- A statement is a command with a backslash, leaves the console, was read from tokens or is
refused. -/
theorem request_of_parse (read : parse text = .ok (some statement)) :
    metaRequest? text.trim = some statement.request ∨ statement.request = .exit ∨
      (∃ source tokens, tokens? source = .ok tokens ∧
        request? source tokens = .ok statement.request) ∨
      ∃ message token, statement.request = .refused message token := by
  obtain ⟨-, found⟩ := parse_eq_some_iff.mp read
  unfold parseTrimmed at found
  split at found
  · cases found
  · exact .inl (Except.ok.inj found)
  split at found
  · exact .inr (.inl (Option.some.inj (Except.ok.inj found)).symm)
  split at found
  · obtain ⟨request, ended, same⟩ := map_ok_iff.mp found
    obtain rfl := Option.some.inj same
    rcases parseEnded_eq_ok_iff.mp ended with parsed | ⟨fault, -, -, refused⟩
    · obtain ⟨tokens, scanned, asked⟩ := bind_ok_iff.mp parsed
      exact .inr (.inr (.inl ⟨_, tokens, scanned, asked⟩))
    · obtain ⟨message, token, told⟩ := refusal_refuses text.trim fault
      exact .inr (.inr (.inr ⟨message, token, refused.trans told⟩))
  split at found
  · cases found
  · exact .inr (.inr (.inr ⟨_, _, (Option.some.inj (Except.ok.inj found)).symm⟩))

theorem ofTokens?_of_parse (read : parse text = .ok (some statement))
    (query : statement.request = .select selection) :
    ∃ source tokens, Query.ofTokens? source tokens = .ok selection := by
  have request := request_of_parse read
  rw [query] at request
  rcases request with command | exit | ⟨source, tokens, -, asked⟩ | ⟨message, token, refused⟩
  · exact absurd command metaRequest?_ne_select
  · cases exit
  · obtain ⟨rest, given⟩ := holds_of_request? asked
    exact ⟨source, rest, given⟩
  · cases refused

theorem plain_of_parse (read : parse text = .ok (some statement))
    (query : statement.request = .select selection) :
    text.trim.head? ≠ some (.char '\\') := by
  obtain ⟨-, found⟩ := parse_eq_some_iff.mp read
  intro head
  obtain ⟨rest, same⟩ := List.head?_eq_some_iff.mp head
  rw [same, query] at found
  exact metaRequest?_ne_select (Except.ok.inj found)

theorem operator_of_parse (read : parse text = .ok (some statement))
    (query : statement.request = .select selection) :
    ∀ condition ∈ selection.condition, condition.operator.isKnown = true := by
  obtain ⟨source, tokens, given⟩ := ofTokens?_of_parse read query
  exact Query.ofTokens?_isKnown given

/-! ### Databases that are changed to -/

theorem database_ne_nil (read : parse text = .ok (some statement)) :
    ∀ name ∈ statement.request.database?, name ≠ [] := by
  intro name used
  have asked : statement.request = .useDatabase name := by
    cases request : statement.request with
    | useDatabase database =>
      rw [request] at used
      exact congrArg _ (Option.some.inj used)
    | _ => rw [request] at used; cases used
  have request := request_of_parse read
  rw [asked] at request
  rcases request with command | exit | ⟨source, tokens, scanned, given⟩ | ⟨message, token, refused⟩
  · rcases metaRequest?_cases command with same | same | same | ⟨_, same⟩ | ⟨_, member, same⟩
    case inr.inr.inr.inr =>
      cases same
      exact Text.ne_nil_of_mem_words member
    all_goals cases same
  · cases exit
  · obtain ⟨t, member, identifier, rfl⟩ := holds_of_request? given
    rw [← Query.scan_of_tokens? scanned] at member
    exact (Token.cut_scan [] source).value_ne_nil t member (by simp [identifier])
      (by simp [identifier])
  · cases refused

end Statement

end SqlConsole
