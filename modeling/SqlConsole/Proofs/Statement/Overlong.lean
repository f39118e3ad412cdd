import SqlConsole.Proofs.Statement.Selection

/-!
# Numbers that are too long

Input that cannot be read ends with a semicolon, and what is before it are the tokens of a query
with a number that is too long (`exists_of_parse_error`). So input is read wherever its numbers are
short.
-/

namespace SqlConsole.Statement

variable {source text : Text} {what : Overlong} {first : Token} {rest : List Token}

theorem complete?_ne_overlong {request : Request} {tokens : List Token} :
    complete? request tokens ≠ .error (.overlong what) := by
  unfold complete?
  split
  · simp
  · split <;> simp

theorem named?_ne_overlong {expectation : Expectation} {request : Text → Request}
    {tokens : List Token} : named? expectation request tokens ≠ .error (.overlong what) := by
  unfold named?
  split
  · simp
  · split
    · exact complete?_ne_overlong
    · simp

theorem tableWrite?_ne_overlong {expectation : Expectation} {operation : WriteOperation}
    {tokens : List Token} : tableWrite? expectation operation tokens ≠ .error (.overlong what) := by
  unfold tableWrite?
  split
  · simp
  · split <;> simp

theorem show?_ne_overlong {tokens : List Token} : show? tokens ≠ .error (.overlong what) := by
  unfold show?
  split
  · simp
  · split
    · exact complete?_ne_overlong
    · exact complete?_ne_overlong
    · exact named?_ne_overlong
    · simp

theorem request?_select (select : first.kind = .keyword .select) :
    request? source (first :: rest) = .select <$> Query.ofTokens? source rest := by
  unfold request?
  simp only [select]

theorem request?_eq_overlong {tokens : List Token}
    (fails : request? source tokens = .error (.overlong what)) :
    ∃ first rest, tokens = first :: rest ∧ first.kind = .keyword .select ∧
      Query.ofTokens? source rest = .error (.overlong what) := by
  unfold request? at fails
  split at fails
  · cases fails
  · split at fails
    case h_1 select => exact ⟨_, _, rfl, select, map_error_iff.mp fails⟩
    case h_2 => exact absurd fails show?_ne_overlong
    case h_3 | h_4 | h_5 => exact absurd fails named?_ne_overlong
    case h_6 | h_7 | h_8 | h_11 => cases fails
    case h_9 | h_10 => exact absurd fails tableWrite?_ne_overlong

theorem tokens?_ne_overlong : tokens? source ≠ .error (.overlong what) := by
  unfold tokens?
  dsimp only
  split <;> simp

theorem read?_eq_overlong_iff :
    read? source = .error (.overlong what) ↔ ∃ first rest, tokens? source = .ok (first :: rest) ∧
      first.kind = .keyword .select ∧
        Query.ofTokens? source rest = .error (.overlong what) := by
  constructor
  · intro fails
    rcases bind_error_iff.mp fails with fails | ⟨tokens, scanned, fails⟩
    · exact absurd fails tokens?_ne_overlong
    · obtain ⟨first, rest, rfl, select, fails⟩ := request?_eq_overlong fails
      exact ⟨first, rest, scanned, select, fails⟩
  · rintro ⟨first, rest, scanned, select, fails⟩
    refine bind_error_iff.mpr (.inr ⟨_, scanned, ?_⟩)
    rw [request?_select select]
    exact map_error_iff.mpr fails

theorem exists_of_parse_error (fails : parse text = .error what) :
    ∃ body, text.trim = body ++ [.char ';'] ∧ text.trim.head? ≠ some (.char '\\') ∧
      read? body = .error (.overlong what) := by
  have found := parse_eq_error.mp fails
  unfold parseTrimmed at found
  split at found
  · cases found
  · cases found
  rename_i plain
  split at found
  · cases found
  split at found
  · rename_i ended
    refine ⟨_, (List.dropLast_append_getLast? _ ended).symm, ?_,
      parseEnded_eq_error.mp (map_error_iff.mp found)⟩
    intro head
    obtain ⟨rest, same⟩ := List.head?_eq_some_iff.mp head
    exact plain rest same
  · split at found <;> cases found

theorem isOf_of_read? (fails : read? source = .error (.overlong what)) :
    what.IsOf (Token.scan source) := by
  obtain ⟨first, rest, scanned, -, fails⟩ := read?_eq_overlong_iff.mp fails
  rcases Query.ofTokens?_faults _ _ _ fails with syntactic | ⟨_, ⟨⟩, long⟩
  · cases syntactic
  · rw [Query.scan_of_tokens? scanned]
    exact long.of_subset (List.subset_cons_self first rest)

theorem isOf_of_parse (fails : parse text = .error what) :
    what.IsOf (Token.scan (withoutSemicolon text.trim)) := by
  obtain ⟨body, ended, -, overlong⟩ := exists_of_parse_error fails
  have cut : withoutSemicolon text.trim = body := by
    simp [withoutSemicolon, ended]
  rw [cut]
  exact isOf_of_read? overlong

/-! ### Such a query -/

open Query (overlongQuery)

theorem read?_overlongQuery : read? overlongQuery = .error (.overlong (.numeral 4301)) :=
  read?_eq_overlong_iff.mpr Query.tokens?_overlongQuery

theorem leadingWord_overlongQuery :
    leadingWord (overlongQuery ++ [.char ';']) ∈ leadingWords := by
  decide +kernel

theorem isUnfinished_overlongQuery : IsUnfinished overlongQuery :=
  isUnfinished_of_leading (by decide +kernel) (by decide +kernel)

theorem parse_overlongQuery :
    parse (overlongQuery ++ [.char ';']) = .error (.numeral 4301) := by
  have blank : Text.AllBlank [] := List.forall_mem_nil _
  have parsed := parse_of_leading blank blank leadingWord_overlongQuery
  rw [List.nil_append, List.append_nil] at parsed
  rw [parsed]
  refine map_error_iff.mpr (parseEnded_eq_error.mpr ?_)
  rw [List.dropLast_concat]
  exact read?_overlongQuery

def overlongLimit : Text :=
  Text.ofString "limit " ++ List.replicate (Text.digitLimit + 1) (.char '1') ++ [.char ';']

theorem parse_overlongLimit :
    parse ("select a from t" ++ "\n" ++ overlongLimit) = .error (.numeral 4301) := by
  have same : Text.ofString "select a from t" ++ Text.ofString "\n" ++ overlongLimit =
      overlongQuery ++ [.char ';'] := by
    simp only [overlongLimit, overlongQuery, ← List.append_assoc]
    rfl
  rw [same]
  exact parse_overlongQuery

end SqlConsole.Statement
