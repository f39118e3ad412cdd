import SqlConsole.Proofs.Statement.Terminated
import SqlConsole.Proofs.Token.Append

/-!
# The semicolon at the end

A text in words that is accepted ends with the token of a semicolon, behind the tokens that its
statement is read from, unless a comment takes the semicolon in (`parse_ends_semicolon`).
-/

namespace SqlConsole

namespace Token

theorem scanFrom_semicolon (p : Position) {e : Text} (blank : e.AllBlank) :
    ∃ stop : Token, scanFrom p 0 (.char ';' :: e) = [placed p .semicolon [.char ';'], stop] ∧
      stop.kind = .stop := by
  have single : scanFrom p 0 (.char ';' :: e) =
      placed p .semicolon [.char ';'] :: scanFrom (p.after [.char ';']) 0 e := by
    refine scanFrom_single p rfl ?_ (by rintro ⟨⟩)
    cases e with
    | nil => rfl
    | cons c cs => simp [doubleKind?]
  have last := scanFrom_blank (p.after [.char ';']) blank []
  rw [List.append_nil] at last
  rw [single, last]
  exact ⟨_, rfl, rfl⟩

theorem scan_framed {b body e : Text} (before : b.AllBlank) (after : e.AllBlank)
    (lexed : ∀ t ∈ scan body, t.kind ≠ .stray) (closed : ¬EndsInComment body) :
    ∃ inner mark stop, scan (b ++ (body ++ .char ';' :: e)) = inner ++ [mark, stop] ∧
      inner.map bare = (scan body).dropLast.map bare ∧ mark.kind = .semicolon ∧
      mark.start = (b ++ body).length ∧ stop.kind = .stop := by
  have moved : ∀ t ∈ scanFrom (Position.start.after b) 0 body, t.kind ≠ .stray := by
    intro t member stray
    have kinds := scanFrom_kinds (Position.start.after b) .start 0 body
    obtain ⟨u, found, kind⟩ := List.mem_map.mp (kinds ▸ List.mem_map_of_mem member)
    exact lexed u found (kind.trans stray)
  have tokens : scan (b ++ (body ++ .char ';' :: e)) =
      (scanFrom (Position.start.after b) 0 body).dropLast ++
        scanFrom (Position.start.after (b ++ body)) 0 (.char ';' :: e) := by
    rw [scan, scanFrom_blank _ before, Position.after_append, scanFrom_append isEdge_semicolon e _
      (Nat.zero_le _) moved (.inr (mt OpensComment.endsInComment closed))]
  obtain ⟨stop, mark, ends⟩ := scanFrom_semicolon (Position.start.after (b ++ body)) after
  refine ⟨_, _, stop, by rw [tokens, mark], ?_, rfl, offset_after_start _, ends⟩
  rw [List.map_dropLast, List.map_dropLast, scanFrom_bare _ .start]
  rfl

end Token

namespace Statement

/-- A text in words that is accepted is read before the semicolon at its end. If what is read does
not end in a comment, the last token before the end of the text is this semicolon, and those before
it are what is read. -/
theorem parse_ends_semicolon {raw : Text} {statement : Statement}
    (read : parse raw = .ok (some statement)) (plain : raw.trim.head? ≠ some (.char '\\'))
    (stays : ¬LeavesConsole raw.trim) (accepted : ¬statement.request.IsRefused) :
    ∃ body, raw.trim = body ++ [.char ';'] ∧ read? body = .ok statement.request ∧
      (¬Token.EndsInComment body → ∃ inner mark stop, Token.scan raw = inner ++ [mark, stop] ∧
        inner.map Token.bare = (Token.scan body).dropLast.map Token.bare ∧
        mark.kind = .semicolon ∧ stop.kind = .stop ∧
        ∃ e : Text, e.AllBlank ∧ raw.drop mark.start = .char ';' :: e) := by
  obtain ⟨body, whole, asked⟩ := read?_of_parse read plain stays accepted
  refine ⟨body, whole, asked, fun closed => ?_⟩
  obtain ⟨tokens, scanned, -⟩ := bind_ok_iff.mp asked
  obtain ⟨b, e, before, after, same⟩ := Text.exists_framed raw
  rw [whole, List.append_assoc, List.singleton_append] at same
  obtain ⟨inner, mark, stop, scan, each, semicolon, place, ends⟩ :=
    Token.scan_framed before after (tokens?_eq_ok_iff.mp scanned).2 closed
  refine ⟨inner, mark, stop, same ▸ scan, each, semicolon, ends, e, after, ?_⟩
  rw [same, place, ← List.append_assoc, List.drop_left]

/-- A semicolon in a comment that ends and one between quotes stand before the last one. -/
theorem parse_ends_semicolon_comment :
    ∃ inner mark stop,
      Token.scan " select a from t -- b;\n where c = ';' ;\n" = inner ++ [mark, stop] ∧
        mark.kind = .semicolon ∧ stop.kind = .stop := by
  have read : parse " select a from t -- b;\n where c = ';' ;\n" =
      .ok (some ⟨"select a from t -- b;\n where c = ';' ;", .select
        ⟨["a"], "t", none, some ⟨"c", .eq, .text ";"⟩, [], [], none, none⟩⟩) := by decide +kernel
  obtain ⟨body, whole, -, shut⟩ := parse_ends_semicolon read (by decide +kernel)
    (mt isExit_iff.mpr (by decide +kernel)) (by rintro ⟨_, _, ⟨⟩⟩)
  have same : body = "select a from t -- b;\n where c = ';' " := by
    have trimmed : Text.trim " select a from t -- b;\n where c = ';' ;\n" =
        ("select a from t -- b;\n where c = ';' " : Text) ++ [.char ';'] := by decide +kernel
    exact List.append_cancel_right (whole.symm.trans trimmed)
  -- Only a blank is left behind the last token, which is no comment.
  have closed : ¬Token.EndsInComment body := by
    rintro ⟨front, inline, parts, -, stops⟩
    have last : 36 ≤ front.length :=
      stops ⟨.text, ";", 2, 12, 33, 36⟩ (by rw [same]; decide +kernel) (by decide)
    have length := congrArg List.length (same.symm.trans parts)
    rw [show List.length _ = 37 by decide +kernel] at length
    simp only [List.length_append, List.length_cons] at length
    omega
  obtain ⟨inner, mark, stop, scan, -, semicolon, ends, -⟩ := shut closed
  exact ⟨inner, mark, stop, scan, semicolon, ends⟩

/-- A semicolon in a comment ends a statement all the same. -/
theorem parse_semicolon_in_comment :
    parse "select a from t -- b;" =
        .ok (some ⟨"select a from t -- b;", .select ⟨["a"], "t", none, none, [], [], none, none⟩⟩) ∧
      (Token.scan "select a from t -- b;").map Token.kind =
        [.keyword .select, .identifier, .keyword .from, .identifier, .stop] := by
  decide +kernel

end Statement

end SqlConsole
