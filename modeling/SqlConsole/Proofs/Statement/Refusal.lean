import SqlConsole.Proofs.Query.Stuck
import SqlConsole.Proofs.Query.Unnamed
import SqlConsole.Proofs.Statement.Ended

/-!
# Tokens that refused queries blame

The token that a refused query blames is where it goes wrong: no tokens that start as those up to it
do are a query. Only a direction to sort by that lacks its column is not blamed itself
(`parse_blames`).
-/

namespace SqlConsole

namespace Query

theorem ofTokens?_succeeds_of_bare {source other : Text} {tokens tokens' : List Token}
    (alike : tokens.map Token.bare = tokens'.map Token.bare)
    (read : ∃ selection, ofTokens? source tokens = .ok selection) :
    ∃ selection, ofTokens? other tokens' = .ok selection := by
  obtain ⟨selection, read⟩ := read
  have unnamed : Selection.unnamed <$> ofTokens? other tokens' = .ok selection.unnamed := by
    rw [← ofTokens?_bare, ← alike, ofTokens?_bare source, read]
    rfl
  obtain ⟨selection', found, -⟩ := map_ok_iff.mp unnamed
  exact ⟨selection', found⟩

theorem isWhole_of_ofTokens? {source : Text} {stop : Token} {tokens : List Token}
    {selection : Selection} (ends : stop.kind = .stop) (inner : ∀ t ∈ tokens, t.kind ≠ .stop)
    (read : ofTokens? source (tokens ++ [stop]) = .ok selection) : IsWhole tokens := by
  obtain ⟨columns, sections, cut, reading⟩ := reading_of_ofTokens? ends inner read
  exact ⟨inner, columns, sections, isQuery_of_reading cut inner reading⟩

end Query

namespace Statement

variable {source text : Text} {first : Token} {start rest : List Token} {fault : Fault}

/-! ### Tokens that can be a query -/

def IsAccepted (tokens : List Token) : Prop :=
  ∃ source first rest selection, tokens = first :: rest ∧ first.kind = .keyword .select ∧
    Query.ofTokens? source rest = .ok selection

/-- Whether no tokens that start with the kinds and values of the given ones are a query. -/
def IsHopeless (start : List Token) : Prop :=
  ∀ tokens stop, start.map Token.bare <+: tokens.map Token.bare →
    (∀ t ∈ tokens, t.kind ≠ .stop ∧ t.kind ≠ .stray) → stop.kind = .stop →
    ¬IsAccepted (tokens ++ [stop])

theorem parseSelect_succeeds_iff :
    (∃ statement, parseSelect text = .ok statement) ↔
      (∀ t ∈ Token.scan (withoutSemicolon text.trim), t.kind ≠ .stray) ∧
        IsAccepted (Token.scan (withoutSemicolon text.trim)) := by
  simp only [parseSelect_eq_ok_iff, read?_select_iff, tokens?_eq_ok_iff]
  constructor
  · rintro ⟨_, selection, -, first, rest, ⟨same, lexed⟩, word, read⟩
    exact ⟨lexed, _, first, rest, selection, same.symm, word, read⟩
  · rintro ⟨lexed, source, first, rest, selection, same, word, read⟩
    obtain ⟨selection, read⟩ := Query.ofTokens?_succeeds_of_bare rfl ⟨selection, read⟩
    exact ⟨_, selection, rfl, first, rest, ⟨same.symm, lexed⟩, word, read⟩

theorem isHopeless_of_stray {t : Token} (member : t ∈ start) (stray : t.kind = .stray) :
    IsHopeless start := by
  rintro tokens stop ⟨more, same⟩ real - -
  have moved : t.bare ∈ tokens.map Token.bare := by
    rw [← same]
    exact List.mem_append_left _ (List.mem_map_of_mem member)
  obtain ⟨u, found, alike⟩ := List.mem_map.mp moved
  exact (real u found).2 ((Token.bare_eq_iff.mp alike).1.trans stray)

theorem isHopeless_of_first (other : first.kind ≠ .keyword .select) : IsHopeless [first] := by
  rintro tokens stop ⟨more, same⟩ - - ⟨_, u, _, _, split, word, -⟩
  cases tokens with
  | nil => cases same
  | cons t tokens =>
    obtain ⟨alike, -⟩ := List.cons.inj same
    obtain ⟨rfl, -⟩ := List.cons.inj split
    exact other ((Token.bare_eq_iff.mp alike).1.trans word)

theorem isHopeless_of_stuck (stuck : ∀ more, ¬Query.IsWhole (start ++ more)) :
    IsHopeless (first :: start) := by
  rintro tokens stop ⟨more, same⟩ real ends ⟨source, u, rest, selection, split, word, read⟩
  cases tokens with
  | nil => cases same
  | cons t tokens =>
    obtain ⟨-, same⟩ := List.cons.inj same
    obtain ⟨rfl, rfl⟩ := List.cons.inj split
    obtain ⟨front, later, rfl, alike, -⟩ := List.map_eq_append_iff.mp same.symm
    have whole : (start ++ later).map Token.bare = (front ++ later).map Token.bare := by
      simp [alike]
    have inner : ∀ t ∈ start ++ later, t.kind ≠ .stop := by
      intro t member
      obtain ⟨u, found, same⟩ := List.mem_map.mp (whole ▸ List.mem_map_of_mem member)
      rw [← (Token.bare_eq_iff.mp same).1]
      exact (real u (List.mem_cons_of_mem _ found)).1
    obtain ⟨selection, read⟩ :
        ∃ selection, Query.ofTokens? source (start ++ later ++ [stop]) = .ok selection :=
      Query.ofTokens?_succeeds_of_bare (by simp [alike]) ⟨selection, read⟩
    exact stuck later (Query.isWhole_of_ofTokens? ends inner read)

theorem not_isHopeless_of_isQuery {columns : List Token} {sections : List Section}
    (more : List Token) (word : first.kind = .keyword .select)
    (real : ∀ t ∈ start ++ more, t.kind ≠ .stop ∧ t.kind ≠ .stray)
    (query : Query.IsQuery (start ++ more) columns sections)
    (readable : Query.IsReadable source sections) : ¬IsHopeless (first :: start) := by
  intro hopeless
  have ends : (⟨.stop, "", 1, 1, 0, 0⟩ : Token).kind = .stop := rfl
  have inner : ∀ t ∈ start ++ more, t.kind ≠ .stop := fun t member => (real t member).1
  have cut := cutClauses_of_layout query.layout inner query.joinFree
    (inOrder_none_iff.mpr query.ordered)
  obtain ⟨selection, reading⟩ := Query.exists_reading_of_isQuery query readable
  refine hopeless (first :: (start ++ more)) _ ?_ ?_ ends
    ⟨source, _, _, selection, rfl, word, Query.ofTokens?_of_reading ends inner cut reading⟩
  · exact (List.prefix_append (first :: start) more).map Token.bare
  · exact List.forall_mem_cons.mpr ⟨by simp [word], real⟩

/-! ### Queries that are refused -/

theorem request?_of_select (word : ∀ k, first.kind = .keyword k → k = .select) :
    request? source (first :: rest) =
      if first.kind = .keyword .select then .select <$> Query.ofTokens? source rest
      else .error (.noStatement first) := by
  unfold request?
  dsimp only
  split
  case h_1 select => rw [if_pos select]
  case h_11 =>
    rw [if_neg]
    assumption
  all_goals cases word _ ‹_›

/-- The first token of input that starts with the word for a query is that word, or none that starts
a statement. -/
theorem first_of_leadingWord {body : Text} (solid : ∀ c ∈ body.head?, c.isBlank = false)
    (query : leadingWord (body ++ [.char ';']) = "select") :
    ∃ first rest, Token.scan body = first :: rest ∧ first.kind ≠ .stop ∧
      ∀ k, first.kind = .keyword k → k = .select := by
  cases body with
  | nil => exact absurd query (by decide)
  | cons c cs =>
    have uncommented : ¬(c = '-' ∧ cs.head? = some (.char '-')) := by
      rintro ⟨rfl, -⟩
      rw [List.cons_append, leadingWord, Text.lower, Text.lowerFrom,
        Text.lowerBetween_ascii (by decide)] at query
      cases query
    obtain ⟨kind, found⟩ := Token.exists_kind_lexeme (solid c rfl) uncommented
    obtain ⟨first, head, rfl⟩ := Token.head?_scanFrom_lexeme .start found
    obtain ⟨rest, scanned⟩ := List.head?_eq_some_iff.mp head
    refine ⟨first, rest, scanned, fun stop => ?_, fun k word => ?_⟩
    · exact Token.lexeme_kind_ne_stop c cs (stop ▸ found)
    · rw [word] at found
      rw [List.cons_append, leadingWord_semicolon found] at query
      cases k <;> first | rfl | exact absurd query (by decide)

theorem fault_of_refused {body : Text} {statement : Statement} {message token : Text}
    (whole : text.trim = body ++ [.char ';']) (query : leadingWord text.trim = "select")
    (scanned : Token.scan body = first :: rest) (word : ∀ k, first.kind = .keyword k → k = .select)
    (read : parse text = .ok (some statement))
    (refused : statement.request = .refused message token) :
    ∃ fault, read? body = .error fault ∧ fault.kind ≠ .uncaught ∧ token = fault.token ∧
      (fault = .endOfInput → message = "syntax error at end of input") := by
  obtain ⟨-, found⟩ := parse_eq_some_iff.mp read
  rw [whole] at query found
  rw [parseTrimmed_of_leading (by rw [query]; decide)] at found
  obtain ⟨request, ended, same⟩ := map_ok_iff.mp found
  obtain rfl := Option.some.inj same
  rcases parseEnded_eq_ok_iff.mp ended with asked | ⟨fault, failed, caught, told⟩
  · rw [List.dropLast_concat] at asked
    obtain ⟨tokens, lexed, asked⟩ := bind_ok_iff.mp asked
    obtain ⟨rfl, -⟩ := tokens?_eq_ok_iff.mp lexed
    rw [scanned, request?_of_select word, refused] at asked
    split at asked
    · obtain ⟨_, -, ⟨⟩⟩ := map_ok_iff.mp asked
    · cases asked
  · rw [List.dropLast_concat] at failed
    have same := told.symm.trans refused
    rw [refusal, if_pos query] at same
    cases same
    refine ⟨fault, failed, caught, rfl, ?_⟩
    rintro rfl
    rfl

theorem exists_stray {body : Text} (failed : tokens? body = .error fault) :
    ∃ t ∈ Token.scan body, t.kind = .stray ∧ fault.token = t.value := by
  unfold tokens? at failed
  dsimp only at failed
  split at failed
  · rename_i t found
    cases failed
    exact ⟨t, List.mem_of_find?_eq_some found, by simpa using List.find?_some found, rfl⟩
  · cases failed

theorem token_of_isAt {t : Token} (inner : t.kind ≠ .stop) (blamed : fault.IsAt t) :
    fault.token = t.value := by
  rcases blamed with rfl | rfl
  · rw [Fault.atToken, if_neg inner]
    rfl
  · rfl

/-- What is at fault in tokens that start with the word for a query, or with no word that starts a
statement. -/
theorem place_of_fault {body : Text} (scanned : Token.scan body = first :: rest)
    (real : first.kind ≠ .stop) (word : ∀ k, first.kind = .keyword k → k = .select)
    (failed : read? body = .error fault) (caught : fault.kind ≠ .uncaught) :
    fault = .endOfInput ∨ ∃ start t later, Token.scan body = start ++ t :: later ∧
      t.kind ≠ .stop ∧ fault.token = t.value ∧ (IsHopeless (start ++ [t]) ∨
        Query.SortsByNothing start.tail (t :: later) ∧ ¬IsHopeless (start ++ [t])) := by
  rcases bind_error_iff.mp failed with failed | ⟨tokens, found, failed⟩
  · obtain ⟨t, member, stray, value⟩ := exists_stray failed
    obtain ⟨start, later, split⟩ := List.append_of_mem member
    exact .inr ⟨start, t, later, split, by simp [stray], value,
      .inl (isHopeless_of_stray (by simp) stray)⟩
  obtain ⟨same, lexed⟩ := tokens?_eq_ok_iff.mp found
  rw [same, scanned] at found failed
  rw [scanned] at lexed ⊢
  rw [request?_of_select word] at failed
  split at failed
  case isFalse other =>
    cases failed
    exact .inr ⟨[], first, rest, rfl, real, rfl, .inl (isHopeless_of_first other)⟩
  rename_i select
  obtain ⟨inner, stop, rfl, ends, free⟩ := Query.tokens_of_scan found real
  rcases Query.ofTokens?_blames ends free caught (map_error_iff.mp failed) with
    blames | ⟨start, t, later, rfl, rfl, sorts, named⟩
  · cases blames with
    | @inside front behind t split blamed stuck =>
      subst split
      have hopeless : IsHopeless (first :: (front ++ [t])) := by
        refine isHopeless_of_stuck fun more => ?_
        rw [← List.append_cons]
        exact stuck more
      exact .inr ⟨first :: front, t, behind ++ [stop], by simp, free t (by simp),
        token_of_isAt (free t (by simp)) blamed, .inl hopeless⟩
    | behind blamed short => exact .inl (blamed.trans (if_pos ends))
  · obtain ⟨columns, earlier, opening, body, late, led, cut, lone⟩ := sorts
    have goesOn : cutClauses (some .order) 0 (t :: (later ++ [stop])) = .ok (body, late) := by
      rw [← List.cons_append, cutClauses_append_stop ends, cut]
      exact fun u member => free u (List.mem_append_right start member)
    have hopeful : ¬IsHopeless (first :: (start ++ [t])) := by
      obtain ⟨columns, sections, query, readable⟩ := named ⟨.identifier, "a", 1, 1, 0, 1⟩ rfl
      rw [List.append_cons] at query
      refine not_isHopeless_of_isQuery _ select ?_ query readable
      refine List.forall_mem_append.mpr ⟨fun u member => ?_, by simp⟩
      have inside : u ∈ start ++ t :: later := by
        rw [List.append_cons]
        exact List.mem_append_left _ member
      exact ⟨free u inside, lexed u (List.mem_cons_of_mem _ (List.mem_append_left _ inside))⟩
    exact .inr ⟨first :: start, t, later ++ [stop], by simp, free t (by simp),
      token_of_isAt (free t (by simp)) (.inl rfl),
      .inr ⟨⟨columns, earlier, opening, body, late, led, goesOn, lone⟩, hopeful⟩⟩

/-- A refused query blames its end or a token after which no tokens make it a query. Where a
direction to sort by lacks its column, the first token of its list is blamed, after which some
still do. -/
theorem parse_blames {statement : Statement} {message token : Text}
    (ended : text.trim.getLast? = some (.char ';')) (query : leadingWord text.trim = "select")
    (read : parse text = .ok (some statement))
    (refused : statement.request = .refused message token) :
    ∃ body, text.trim = body ++ [.char ';'] ∧
      ((token = [] ∧ message = "syntax error at end of input") ∨
        ∃ start t later, Token.scan body = start ++ t :: later ∧ t.value = token ∧
          (token = [] → t.kind = .text) ∧
          (IsHopeless (start ++ [t]) ∨
            Query.SortsByNothing start.tail (t :: later) ∧ ¬IsHopeless (start ++ [t]))) := by
  obtain ⟨body, whole⟩ : ∃ body, text.trim = body ++ [.char ';'] :=
    ⟨_, (List.dropLast_append_getLast? _ ended).symm⟩
  obtain ⟨first, rest, scanned, real, word⟩ :=
    first_of_leadingWord (Text.solid_of_trim whole) (whole ▸ query)
  obtain ⟨fault, failed, caught, rfl, atEnd⟩ := fault_of_refused whole query scanned word read refused
  refine ⟨body, whole, ?_⟩
  rcases place_of_fault scanned real word failed caught with
    rfl | ⟨start, t, later, split, inner, value, place⟩
  · exact .inl ⟨rfl, atEnd rfl⟩
  · refine .inr ⟨start, t, later, split, value.symm, fun empty => ?_, place⟩
    have member : t ∈ Token.scan body := by simp [split]
    by_contra plain
    exact (Token.cut_scan [] body).value_ne_nil t member inner plain (value.symm.trans empty)

theorem start_of_split {front behind start later : List Token} {t u : Token}
    (split : front ++ u :: behind = start ++ t :: later)
    (alone : ∀ v ∈ front ++ behind, v.value ≠ t.value) : start = front ∧ t = u := by
  rcases List.append_eq_append_iff.mp split with ⟨m, rfl, rest⟩ | ⟨m, rfl, rest⟩
  · cases m with
    | nil => exact ⟨List.append_nil _, (List.cons.inj rest).1.symm⟩
    | cons v m =>
      obtain ⟨-, rfl⟩ := List.cons.inj rest
      exact absurd rfl (alone t (by simp))
  · cases m with
    | nil => exact ⟨(List.append_nil _).symm, (List.cons.inj rest).1⟩
    | cons v m =>
      obtain ⟨rfl, -⟩ := List.cons.inj rest
      exact absurd rfl (alone t (by simp))

theorem parse_blames_comma :
    ∃ start t later, Token.scan "select , a from t" = start ++ t :: later ∧
      t.value = Text.ofString "," ∧ IsHopeless (start ++ [t]) := by
  have read : parse "select , a from t;" =
      .ok (some ⟨"select , a from t;", .refused (misplacedMessage ",") ","⟩) := by decide +kernel
  obtain ⟨body, whole, place⟩ := parse_blames (by decide +kernel) (by decide +kernel) read rfl
  obtain rfl : body = "select , a from t" :=
    List.append_cancel_right (whole.symm.trans (by decide +kernel))
  rcases place with ⟨⟨⟩, -⟩ | ⟨start, t, later, split, value, -, hopeless | ⟨sorts, -⟩⟩
  · exact ⟨start, t, later, split, value, hopeless⟩
  · -- Only the first word stands before the comma.
    have scanned : Token.scan "select , a from t" = [⟨.keyword .select, "select", 1, 1, 0, 6⟩] ++
        ⟨.comma, ",", 1, 8, 7, 8⟩ :: (Token.scan "select , a from t").drop 2 := by decide +kernel
    obtain ⟨rfl, -⟩ :=
      start_of_split (scanned.symm.trans split) (by rw [value]; decide +kernel)
    obtain ⟨columns, earlier, opening, _, _, cut, -⟩ := sorts
    simp [cutClauses] at cut

/-- A direction to sort by that lacks its column is not blamed, but the column before it, which
could well be the last one. -/
theorem parse_blames_first :
    parse "select x from t order by a, asc;" =
        .ok (some ⟨"select x from t order by a, asc;", .refused (misplacedMessage "a") "a"⟩) ∧
      (∃ statement, parseSelect "select x from t order by a" = .ok statement) ∧
      ¬∃ start t later, Token.scan "select x from t order by a, asc" = start ++ t :: later ∧
        t.value = Text.ofString "a" ∧ IsHopeless (start ++ [t]) := by
  have read : parseSelect "select x from t order by a" = .ok ⟨"select x from t order by a", .select
      ⟨["x"], "t", none, none, [], [⟨"a", .ascending⟩], none, none⟩⟩ := by decide +kernel
  refine ⟨by decide +kernel, ⟨_, read⟩, ?_⟩
  rintro ⟨start, t, later, split, value, hopeless⟩
  obtain ⟨-, accepted⟩ := parseSelect_succeeds_iff.mp ⟨_, read⟩
  have whole : Token.scan (withoutSemicolon (Text.trim "select x from t order by a")) =
      (Token.scan "select x from t order by a, asc").take 6 ++
        [⟨.identifier, "a", 1, 26, 25, 26⟩] ++ [⟨.stop, "", 1, 27, 26, 26⟩] := by decide +kernel
  have scanned : Token.scan "select x from t order by a, asc" =
      (Token.scan "select x from t order by a, asc").take 6 ++ ⟨.identifier, "a", 1, 26, 25, 26⟩ ::
        (Token.scan "select x from t order by a, asc").drop 7 := by decide +kernel
  obtain ⟨rfl, rfl⟩ := start_of_split (scanned.symm.trans split) (by rw [value]; decide +kernel)
  rw [whole] at accepted
  exact hopeless _ _ (List.prefix_refl _) (by decide +kernel) rfl accepted

end Statement

end SqlConsole
