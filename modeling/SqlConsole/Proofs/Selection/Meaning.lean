import SqlConsole.Catalog.Bundled
import SqlConsole.Proofs.Selection.References
import SqlConsole.Proofs.Statement.Ended

/-!
# The meaning of a query

What a query asks for depends on the kinds and the values of its tokens, up to the spelling of its
column references (`Statement.parse_alike`). So does its answer (`Catalog.run_reads_tokens`).
-/

namespace SqlConsole

namespace Statement

/-! ### Texts with the same tokens -/

theorem tokens?_trimLeft {a : Text} {tokens : List Token} (scanned : tokens? a = .ok tokens) :
    ∃ moved, tokens? (Text.trimLeft a) = .ok moved ∧
      moved.map Token.bare = tokens.map Token.bare := by
  obtain ⟨rfl, lexed⟩ := tokens?_eq_ok_iff.mp scanned
  obtain ⟨b, blank, same⟩ := Text.exists_trimLeft a
  have alike : (Token.scan (Text.trimLeft a)).map Token.bare = (Token.scan a).map Token.bare := by
    conv => rhs; rw [same, Token.scan, Token.scanFrom_blank _ blank]
    exact Token.scanFrom_bare _ _ 0 _
  refine ⟨_, tokens?_eq_ok_iff.mpr ⟨rfl, fun t member stray => ?_⟩, alike⟩
  obtain ⟨u, found, kind⟩ := List.mem_map.mp (alike ▸ List.mem_map_of_mem (f := Token.bare) member)
  exact lexed u found ((Token.bare_eq_iff.mp kind).1.trans stray)

theorem parse_alike {a b : Text} {left right : List Token} {s : Selection}
    (scannedA : tokens? a = .ok left) (scannedB : tokens? b = .ok right)
    (alike : left.map Token.bare = right.map Token.bare)
    (query : ∃ statement, parse (a ++ [.char ';']) = .ok (some statement) ∧
      statement.request = .select s) :
    ∃ u, (∃ statement, parse (b ++ [.char ';']) = .ok (some statement) ∧
      statement.request = .select u) ∧ s.unnamed = u.unnamed := by
  obtain ⟨movedA, foundA, sameA⟩ := tokens?_trimLeft scannedA
  obtain ⟨movedB, foundB, sameB⟩ := tokens?_trimLeft scannedB
  obtain ⟨first, rest, scanned, word, read⟩ :=
    read?_select_iff.mp (parse_semicolon_select_iff.mp query)
  cases scanned.symm.trans foundA
  have bares := sameA.trans (alike.trans sameB.symm)
  cases movedB with
  | nil => cases bares
  | cons other more =>
    simp only [List.map_cons, List.cons.injEq, Token.bare_eq_iff] at bares
    obtain ⟨⟨kind, -⟩, bares⟩ := bares
    -- Both readings are, up to references, that of the tokens without their places.
    have unnamed : Selection.unnamed <$> Query.ofTokens? (Text.trimLeft b) more =
        .ok s.unnamed := by
      rw [← Query.ofTokens?_bare, ← bares, Query.ofTokens?_bare (Text.trimLeft a), read]
      rfl
    cases found : Query.ofTokens? (Text.trimLeft b) more with
    | error fault =>
      rw [found] at unnamed
      cases unnamed
    | ok u =>
      rw [found] at unnamed
      refine ⟨u, parse_semicolon_select_iff.mpr (read?_select_iff.mpr
        ⟨other, more, foundB, kind ▸ word, found⟩), (Except.ok.inj unnamed).symm⟩

end Statement

/-- A query has the same answer as another one whose tokens have the same kinds and values, where
the references of both resolve alike. It has the same answer or the same error if the references
are spelled alike. -/
theorem Catalog.run_reads_tokens {a b : Text} {left right : List Token} {s : Selection}
    (scannedA : Statement.tokens? a = .ok left) (scannedB : Statement.tokens? b = .ok right)
    (alike : left.map Token.bare = right.map Token.bare)
    (query : ∃ statement, Statement.parse (a ++ [.char ';']) = .ok (some statement) ∧
      statement.request = .select s) :
    ∃ u, (∃ statement, Statement.parse (b ++ [.char ';']) = .ok (some statement) ∧
      statement.request = .select u) ∧ s.unnamed = u.unnamed ∧
      ∀ (catalog : Catalog) (name : Option Text),
        (s.references = u.references → catalog.run s name = catalog.run u name) ∧
        ((∀ database table, name.bind catalog.database? = some database →
          database.table? s.table = some table → s.ResolvesAlike table u) →
          SameValue (catalog.run s name) (catalog.run u name)) := by
  obtain ⟨u, other, same⟩ := Statement.parse_alike scannedA scannedB alike query
  refine ⟨u, other, same, fun catalog name => ⟨fun spelled => ?_, fun resolves => ?_⟩⟩
  · rw [Selection.eq_of_references same spelled]
  · exact run_alike same resolves

def Selection.platform : Selection where
  columns := ["g.id"]
  table := "games"
  tableAlias := some "g"
  condition := some ⟨"platform", .eq, .text "PS5"⟩
  groupBy := []
  orderBy := []
  limit := none
  offset := none

/-- The games of one platform, asked for in two ways that differ in blanks, a comment and quotes. -/
theorem Catalog.run_reads_tokens_platform :
    ∃ u statement, Statement.parse
        (" select g.id--;\nfrom games\tg where platform=\"PS5\"" ++ [CodePoint.char ';']) =
          .ok (some statement) ∧ statement.request = .select u ∧
      bundled.run u (some "private_db") = .ok ⟨["id"], [[.integer 2]], 1⟩ := by
  have query : ∃ statement, Statement.parse
      ("select g.id from games g where platform = 'PS5'" ++ [CodePoint.char ';']) =
        .ok (some statement) ∧ statement.request = .select .platform :=
    ⟨⟨"select g.id from games g where platform = 'PS5';", .select .platform⟩,
      by decide +kernel, rfl⟩
  have respelt : Statement.parse
      (" select g.id--;\nfrom games\tg where platform=\"PS5\"" ++ [CodePoint.char ';']) =
      .ok (some ⟨"select g.id--;\nfrom games\tg where platform=\"PS5\";", .select .platform⟩) := by
    decide +kernel
  obtain ⟨u, ⟨statement, read, asked⟩, -, same⟩ := run_reads_tokens
    (b := " select g.id--;\nfrom games\tg where platform=\"PS5\"")
    (Statement.tokens?_eq_ok_iff.mpr ⟨rfl, by decide +kernel⟩)
    (Statement.tokens?_eq_ok_iff.mpr ⟨rfl, by decide +kernel⟩) (by decide +kernel) query
  refine ⟨u, statement, read, asked, ?_⟩
  rw [respelt] at read
  cases read
  cases asked
  rw [← (same bundled (some "private_db")).1 rfl]
  rfl

/-- Blanks around the point of a reference are no tokens, but the reference is another one. -/
theorem Catalog.run_spaced_reference :
    Statement.tokens? "select e . id from engineers e" =
        .ok (Token.scan "select e . id from engineers e") ∧
      Statement.tokens? "select e.id from engineers e" =
        .ok (Token.scan "select e.id from engineers e") ∧
      (Token.scan "select e . id from engineers e").map Token.bare =
        (Token.scan "select e.id from engineers e").map Token.bare ∧
      (∃ s u, Statement.parse "select e . id from engineers e;" =
          .ok (some ⟨"select e . id from engineers e;", .select s⟩) ∧
        Statement.parse "select e.id from engineers e;" =
          .ok (some ⟨"select e.id from engineers e;", .select u⟩) ∧
        bundled.run s (some "career_db") = .error (.unknownTable "e ") ∧
        bundled.run u (some "career_db") =
          .ok ⟨["id"], [[.integer 1], [.integer 2]], 2⟩) := by
  refine ⟨by decide +kernel, by decide +kernel, by decide +kernel,
    ⟨["e . id"], "engineers", some "e", none, [], [], none, none⟩,
    ⟨["e.id"], "engineers", some "e", none, [], [], none, none⟩, by decide +kernel,
    by decide +kernel, rfl, rfl⟩

end SqlConsole
