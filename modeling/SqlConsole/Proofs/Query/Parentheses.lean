import SqlConsole.Proofs.Statement.Terminated

/-!
# Parentheses and clauses

A clause starts where as many parentheses are closed as are opened before it, and each word that
could start one there does (`Layout.standsOutside`). So only the last clause of a query can leave
its parentheses uneven, and only a word behind them can be passed over (`clauses_stand_outside`).
-/

namespace SqlConsole

open Token (EachOutside)

/-- Whether the parentheses among tokens are balanced: none is closed that was not opened, and none
is left open. -/
def Token.IsBalanced (tokens : List Token) : Prop :=
  (∀ before after, tokens = before ++ after → 0 ≤ depth before) ∧ depth tokens = 0

theorem Token.EachOutside.imp {d : Int} {p q : Token → Prop} {tokens : List Token}
    (each : EachOutside d p tokens) (weaker : ∀ t, p t → q t) : EachOutside d q tokens :=
  fun before t after same outside => weaker t (each before t after same outside)

/-- How the clauses of a query, from a depth of parentheses on, stand to its parentheses. -/
structure StandsOutside (d : Int) (tokens columns : List Token) (sections : List Section) :
    Prop where
  openings : ∀ s ∈ sections, ∃ before after, tokens = before ++ s.opening :: after ∧
    d + Token.depth before = 0
  complete : EachOutside d (fun t => ∀ clause, Clause.ofKind? t.kind = some clause →
    ∃ s ∈ sections, s.clause = clause ∧ s.opening = t) tokens
  columns : sections ≠ [] → d + Token.depth columns = 0
  bodies : ∀ s ∈ sections.dropLast, Token.depth s.body = 0
  /-- What is uneven is so in the last clause. -/
  last : ∀ s ∈ sections.getLast?, d + Token.depth tokens = Token.depth s.body

namespace Layout

variable {d : Int} {tokens columns : List Token} {sections : List Section}

theorem depth_clause {before joined : List Token} {t : Token} {clause : Clause}
    (outside : d + Token.depth before = 0) (opens : Clause.ofKind? t.kind = some clause)
    (joins : joined.map Token.kind = if clause.takesBy then [.keyword .by] else [])
    (rest : List Token) :
    d + Token.depth (before ++ t :: (joined ++ rest)) = Token.depth rest := by
  rw [Token.depth_append, Token.depth_cons, Token.depth_append, depthChange_of_clause opens,
    depth_joined joins]
  omega

theorem clauseFree_joined {joined : List Token} {clause : Clause}
    (joins : joined.map Token.kind = if clause.takesBy then [.keyword .by] else []) :
    ClauseFree d joined := by
  rintro before t after rfl -
  have member : t.kind ∈ (before ++ t :: after).map Token.kind := by simp
  rw [joins] at member
  split at member
  · rw [List.mem_singleton.mp member]
    rfl
  · cases member

theorem nowhere_of_clauseFree {body : List Token} (free : ClauseFree d body) :
    EachOutside d (fun t => ∀ clause, Clause.ofKind? t.kind = some clause →
      ∃ s ∈ sections, s.clause = clause ∧ s.opening = t) body :=
  free.imp fun _ none _ opens => nomatch none.symm.trans opens

theorem standsOutside_clause {before joined rest body : List Token} {t : Token} {clause : Clause}
    (free : ClauseFree d before) (outside : d + Token.depth before = 0)
    (opens : Clause.ofKind? t.kind = some clause)
    (joins : joined.map Token.kind = if clause.takesBy then [.keyword .by] else [])
    (whole : sections = [] → rest = body) (others : StandsOutside 0 rest body sections) :
    StandsOutside d (before ++ t :: (joined ++ rest)) before (⟨clause, t, body⟩ :: sections) := by
  have deep := depth_clause outside opens joins
  constructor
  · intro s member
    rcases List.mem_cons.mp member with rfl | member
    · exact ⟨before, joined ++ rest, rfl, outside⟩
    · obtain ⟨front, after, rfl, even⟩ := others.openings s member
      refine ⟨before ++ t :: (joined ++ front), after, by simp, ?_⟩
      rw [deep front]
      omega
  · rw [Token.eachOutside_append, Token.eachOutside_cons, Token.eachOutside_append, outside,
      depthChange_of_clause opens, depth_joined joins]
    refine ⟨nowhere_of_clauseFree free, fun _ other starts => ?_,
      nowhere_of_clauseFree (clauseFree_joined joins), ?_⟩
    · cases opens.symm.trans starts
      exact ⟨_, List.mem_cons_self, rfl, rfl⟩
    · refine others.complete.imp fun u found other starts => ?_
      obtain ⟨s, member, same⟩ := found other starts
      exact ⟨s, List.mem_cons_of_mem _ member, same⟩
  · exact fun _ => outside
  · intro s member
    cases sections with
    | nil => cases member
    | cons next sections =>
      rcases List.mem_cons.mp member with rfl | member
      · simpa using others.columns (List.cons_ne_nil next sections)
      · exact others.bodies s member
  · intro s final
    rw [deep rest]
    cases sections with
    | nil =>
      cases final
      rw [whole rfl]
      rfl
    | cons next sections => simpa using others.last s final

theorem standsOutside (layout : Layout d tokens columns sections) :
    StandsOutside d tokens columns sections := by
  induction layout with
  | last free => exact ⟨by simp, nowhere_of_clauseFree free, by simp, by simp, by simp⟩
  | clause free outside opens joins others ih =>
    refine standsOutside_clause free outside opens joins ?_ ih
    rintro rfl
    cases others
    rfl

end Layout

/-! ### Clauses without parentheses -/

def Clause.isPlain : Clause → Bool
  | .from => true
  | .limit => true
  | .offset => true
  | _ => false

def Token.HasNoParens (tokens : List Token) : Prop :=
  ∀ t ∈ tokens, t.kind ≠ .openParen ∧ t.kind ≠ .closeParen

theorem Token.HasNoParens.depth_eq {tokens : List Token} (free : HasNoParens tokens) :
    depth tokens = 0 := by
  unfold depth
  rw [List.countP_eq_zero.mpr fun t member => by simp [(free t member).1],
    List.countP_eq_zero.mpr fun t member => by simp [(free t member).2]]
  rfl

namespace Query

variable {source : Text} {tokens columns : List Token} {sections : List Section}

theorem IsSource.hasNoParens {body : List Token} {table : Text} {tableAlias : Option Text}
    (written : IsSource body table tableAlias) : Token.HasNoParens body := by
  cases written with
  | bare table => simp [Token.HasNoParens, table]
  | aliased table name => simp [Token.HasNoParens, table, name]
  | worded table as name => simp [Token.HasNoParens, table, as, name]

theorem bodyOf_of_mem (query : IsQuery tokens columns sections) {s : Section}
    (member : s ∈ sections) : bodyOf s.clause sections = some s.body := by
  have ascending := (inOrder_iff.mp (inOrder_none_iff.mpr query.ordered)).2
  have found : sections.find? (·.clause = s.clause) = some s := by
    obtain ⟨before, after, rfl⟩ := List.append_of_mem member
    rw [List.pairwise_append] at ascending
    rw [List.find?_append, List.find?_eq_none.mpr, Option.none_or, List.find?_cons_of_pos]
    · simp
    · intro earlier inFront
      have below := ascending.2.2 earlier inFront s List.mem_cons_self
      intro same
      rw [of_decide_eq_true same] at below
      exact absurd below (Nat.lt_irrefl _)
  rw [bodyOf, found, Option.map_some]

theorem IsQuery.hasNoParens (query : IsQuery tokens columns sections) :
    ∀ s ∈ sections, s.clause.isPlain = true → Token.HasNoParens s.body := by
  intro s member plain
  have present := bodyOf_of_mem query member
  have counted : (∃ t, s.body = [t] ∧ t.kind = .integer) → Token.HasNoParens s.body := by
    rintro ⟨t, single, number⟩
    simp [single, Token.HasNoParens, number]
  generalize s.clause = clause at plain present
  cases clause with
  | «from» =>
    obtain ⟨body, there, table, tableAlias, written⟩ := query.table
    cases present.symm.trans there
    exact written.hasNoParens
  | limit => exact counted (query.limit s.body present)
  | offset => exact counted (query.offset s.body present)
  | _ => cases plain

/-- A selection is read from a query whose clauses start where as many parentheses are closed as are
opened, and a word that could start a clause there does. Some clauses hold no parentheses, and where
the last one is of these the query closes as many as it opens. -/
theorem clauses_stand_outside {text : Text} {statement : Statement} {selection : Selection}
    (read : Statement.parse text = .ok (some statement))
    (query : statement.request = .select selection) :
    ∃ body first inner stop columns sections, text.trim = body ++ [.char ';'] ∧
      Statement.tokens? body = .ok (first :: (inner ++ [stop])) ∧
      first.kind = .keyword .select ∧ stop.kind = .stop ∧
      IsQuery inner columns sections ∧ Reading body columns sections selection ∧
      StandsOutside 0 inner columns sections ∧
      (∀ s ∈ sections, s.clause.isPlain = true → Token.HasNoParens s.body) ∧
      ((∀ s ∈ sections.getLast?, s.clause.isPlain = true) →
        Token.depth (first :: (inner ++ [stop])) = 0) := by
  obtain ⟨body, whole, asked⟩ := Statement.read?_of_selection read query
  obtain ⟨first, inner, stop, scanned, word, ends, free, given⟩ :=
    Statement.ofTokens?_of_read? asked
  obtain ⟨columns, sections, cut, reading⟩ := (ofTokens?_eq_ok_iff ends free).mp given
  have grammar := isQuery_of_reading cut free reading
  have outside := grammar.layout.standsOutside
  refine ⟨body, first, inner, stop, columns, sections, whole, scanned, word, ends, grammar, reading,
    outside, grammar.hasNoParens, fun plain => ?_⟩
  have present : sections ≠ [] := by
    rintro rfl
    obtain ⟨_, there, -⟩ := reading.table
    cases there
  have last := List.getLast?_eq_some_getLast present
  have even := (grammar.hasNoParens _ (List.getLast_mem present) (plain _ last)).depth_eq
  have uneven := outside.last _ last
  have margins : first.depthChange = 0 ∧ stop.depthChange = 0 := by
    simp [Token.depthChange, word, ends]
  rw [Token.depth_cons, Token.depth_append, Token.depth_cons, Token.depth_nil, margins.1,
    margins.2]
  omega

/-- A query with parentheses in three of its clauses. -/
theorem clauses_stand_outside_count :
    ∃ body first inner stop columns sections,
      Statement.tokens? body = .ok (first :: (inner ++ [stop])) ∧
      Reading body columns sections
        ⟨["count(id)"], "t", none, some ⟨"b", .eq, .integer 1⟩, [], [⟨"(a)", .ascending⟩],
          some 2, none⟩ ∧
      StandsOutside 0 inner columns sections := by
  have read : Statement.parse "select count(id) from t where (b = 1) order by (a) limit 2;" =
      .ok (some ⟨"select count(id) from t where (b = 1) order by (a) limit 2;", .select
        ⟨["count(id)"], "t", none, some ⟨"b", .eq, .integer 1⟩, [], [⟨"(a)", .ascending⟩],
          some 2, none⟩⟩) := by decide +kernel
  obtain ⟨body, first, inner, stop, columns, sections, -, scanned, -, -, -, reading, outside, -⟩ :=
    clauses_stand_outside read rfl
  exact ⟨body, first, inner, stop, columns, sections, scanned, reading, outside⟩

/-- Behind a parenthesis that is left open the word for a limit starts no clause, and parentheses
may be closed before they are opened. -/
theorem parse_unbalanced :
    Statement.parse "select a from t where (b = 1 limit 1;" =
        .ok (some ⟨"select a from t where (b = 1 limit 1;",
          .select ⟨["a"], "t", none, some ⟨"b", .eq, .integer 1⟩, [], [], none, none⟩⟩) ∧
      ¬Token.IsBalanced (Token.scan "select a from t where (b = 1 limit 1") ∧
      Statement.parse "select ) a ( from t;" =
        .ok (some ⟨"select ) a ( from t;", .select ⟨[") a ("], "t", none, none, [], [], none, none⟩⟩) ∧
      ¬Token.IsBalanced (Token.scan "select ) a ( from t") := by
  refine ⟨by decide +kernel, fun balanced => ?_, by decide +kernel, fun balanced => ?_⟩
  · exact absurd balanced.2 (by decide +kernel)
  · have below := balanced.1 ((Token.scan "select ) a ( from t").take 2) _
      (List.take_append_drop 2 _).symm
    exact absurd below (by decide +kernel)

end Query

end SqlConsole
