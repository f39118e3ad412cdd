import SqlConsole.Proofs.Query.Blame

/-!
# Where a query goes wrong

Tokens that are no query are blamed at their end or at a token after which nothing makes them one,
unless they are to be sorted by a direction without a column (`ofTokens?_blames`). A number that is
too long is no such fault.
-/

namespace SqlConsole

variable {last : Option Clause} {d : Int} {stop : Token} {tokens before : List Token}
  {sections : List Section} {fault : Fault}

/-! ### Bodies within a query -/

/-- Tokens that are passed over when a query is cut, from a depth of parentheses on. -/
structure PassedOver (d : Int) (tokens : List Token) : Prop where
  inner : ∀ t ∈ tokens, t.kind ≠ .stop
  joinFree : Token.EachOutside d (·.kind ≠ .keyword .join) tokens
  free : ClauseFree d tokens

theorem PassedOver.front {a b : List Token} (passed : PassedOver d (a ++ b)) : PassedOver d a where
  inner := (List.forall_mem_append.mp passed.inner).1
  joinFree := (Token.eachOutside_append.mp passed.joinFree).1
  free := (Token.eachOutside_append.mp passed.free).1

theorem PassedOver.name {u : Token} (passed : PassedOver d tokens) (name : u.kind = .identifier) :
    PassedOver d (tokens ++ [u]) where
  inner := List.forall_mem_append.mpr ⟨passed.inner, by simp [name]⟩
  joinFree := Token.eachOutside_append.mpr ⟨passed.joinFree,
    Token.eachOutside_cons.mpr ⟨fun _ => by simp [name], Token.eachOutside_nil⟩⟩
  free := Token.eachOutside_append.mpr ⟨passed.free,
    Token.eachOutside_cons.mpr ⟨fun _ => by simp [name, Clause.ofKind?], Token.eachOutside_nil⟩⟩

theorem PassedOver.cut_eq (passed : PassedOver d tokens) :
    cutClauses last d tokens = .ok (tokens, []) := by
  have cut : cutClauses last d (tokens ++ []) = _ :=
    cutClauses_free passed.inner passed.joinFree passed.free
  rwa [List.append_nil, cutClauses, Except.map_ok, List.append_nil] at cut

theorem PassedOver.cut {front more body : List Token} {late : List Section}
    (passed : PassedOver d front) (cut : cutClauses last d (front ++ more) = .ok (body, late)) :
    ∃ rest, body = front ++ rest ∧
      cutClauses last (d + Token.depth front) more = .ok (rest, late) := by
  rw [cutClauses_free passed.inner passed.joinFree passed.free] at cut
  obtain ⟨⟨rest, _⟩, found, ⟨⟩⟩ := map_ok_iff.mp cut
  exact ⟨rest, rfl, found⟩

/-- What stands before the first clause is passed over, and the word that starts the clause comes
next. -/
theorem passedOver_of_cutClauses (inner : ∀ t ∈ tokens, t.kind ≠ .stop)
    (cut : cutClauses last d tokens = .ok (before, sections)) :
    PassedOver d before ∧ ((tokens = before ∧ sections = []) ∨
      ∃ s late joined rest, sections = s :: late ∧
        tokens = before ++ s.opening :: (joined ++ rest) ∧ d + Token.depth before = 0 ∧
        Clause.ofKind? s.opening.kind = some s.clause ∧
        joined.map Token.kind = (if s.clause.takesBy then [.keyword .by] else []) ∧
        s.clause.follows last = true) := by
  obtain ⟨layout, joinFree, ordered⟩ := layout_of_cutClauses inner cut
  cases layout with
  | last free => exact ⟨⟨inner, joinFree, free⟩, .inl ⟨rfl, rfl⟩⟩
  | clause free outside opens joins _ =>
    exact ⟨⟨(List.forall_mem_append.mp inner).1, (Token.eachOutside_append.mp joinFree).1, free⟩,
      .inr ⟨_, _, _, _, rfl, rfl, outside, opens, joins, ordered.1⟩⟩

theorem exists_tail_of_cutClauses (inner : ∀ t ∈ tokens, t.kind ≠ .stop)
    (cut : cutClauses last d tokens = .ok (before, sections)) : ∃ tail, tokens = before ++ tail := by
  rcases (passedOver_of_cutClauses inner cut).2 with ⟨rfl, -⟩ | ⟨_, _, _, _, -, rfl, -⟩
  · exact ⟨[], (List.append_nil _).symm⟩
  · exact ⟨_, rfl⟩

/-- A fault behind a body is at the word that starts the next clause, or at the end. No tokens
after it help if the body is at fault before any such clause. -/
theorem blames_behind (good : List Token → List Section → Prop) {body : List Token}
    {late : List Section} (inner : ∀ t ∈ tokens, t.kind ≠ .stop)
    (cut : cutClauses last 0 tokens = .ok (body, late))
    (short : ∀ others : List Section,
      others.head?.map Section.clause = late.head?.map Section.clause → ¬good body others) :
    Blames (fun tokens => ∃ body late, cutClauses last 0 tokens = .ok (body, late) ∧ good body late)
      stop tokens (.atToken ((late.head?.map Section.opening).getD stop)) := by
  obtain ⟨passed, ⟨rfl, rfl⟩ | ⟨s, late, joined, rest, rfl, rfl, outside, opens, -⟩⟩ :=
    passedOver_of_cutClauses inner cut
  · refine .behind rfl ?_
    rintro ⟨_, _, found, present⟩
    cases cut.symm.trans found
    exact short [] rfl present
  · refine .inside body _ rfl (.inl rfl) ?_
    rintro more ⟨_, _, found, present⟩
    obtain ⟨rest, rfl, next⟩ := passed.cut found
    rw [outside] at next
    obtain ⟨-, rfl, _, _, _, _, -, -, -, rfl⟩ := clause_of_cutClauses opens next
    rw [List.append_nil] at present
    exact short _ (by rfl) present

theorem blames_of_body {good : List Token → Prop} {body : List Token} {late : List Section}
    (inner : ∀ t ∈ tokens, t.kind ≠ .stop) (cut : cutClauses last 0 tokens = .ok (body, late))
    (blames : Blames good ((late.head?.map Section.opening).getD stop) body fault) :
    Blames (fun tokens => ∃ body late, cutClauses last 0 tokens = .ok (body, late) ∧ good body)
      stop tokens fault := by
  cases blames with
  | behind blamed short =>
    rw [blamed]
    exact blames_behind (fun body _ => good body) inner cut fun _ _ => short
  | @inside front behind t split blamed stuck =>
    have passed := (passedOver_of_cutClauses inner cut).1
    obtain ⟨tail, whole⟩ := exists_tail_of_cutClauses inner cut
    refine .inside front (behind ++ tail) (by simp [whole, split]) blamed ?_
    -- All up to the token is passed over, so whatever follows it only makes the body longer.
    rintro more ⟨_, _, found, present⟩
    rw [split, List.append_cons] at passed
    rw [List.append_cons] at found
    obtain ⟨rest, rfl, -⟩ := passed.front.cut found
    rw [← List.append_cons] at present
    exact stuck rest present

/-! ### Tokens that lead to a body -/

theorem exists_lead_first {s : Section} {late : List Section}
    (inner : ∀ t ∈ tokens, t.kind ≠ .stop)
    (cut : cutClauses last d tokens = .ok (before, s :: late)) :
    ∃ lead rest, tokens = lead ++ rest ∧ cutClauses (some s.clause) 0 rest = .ok (s.body, late) ∧
      ∀ more, cutClauses last d (lead ++ more) =
        (fun cut => (before, ⟨s.clause, s.opening, cut.1⟩ :: cut.2)) <$>
          cutClauses (some s.clause) 0 more := by
  obtain ⟨passed, ⟨-, ⟨⟩⟩ | ⟨⟨clause, opening, body⟩, _, joined, rest, ⟨⟩, rfl, outside, opens,
    joins, follows⟩⟩ := passedOver_of_cutClauses inner cut
  dsimp only at opens joins follows cut ⊢
  have resumes : ∀ more, cutClauses last d (before ++ opening :: joined ++ more) =
      (fun cut => (before, ⟨clause, opening, cut.1⟩ :: cut.2)) <$>
        cutClauses (some clause) 0 more := by
    intro more
    rw [List.append_assoc, List.cons_append,
      cutClauses_free passed.inner passed.joinFree passed.free, outside,
      cutClauses_clause opens joins follows, Functor.map_map]
    simp only [List.append_nil]
  refine ⟨before ++ opening :: joined, rest, by simp, ?_, resumes⟩
  rw [← List.cons_append, ← List.append_assoc, resumes] at cut
  obtain ⟨_, found, ⟨⟩⟩ := map_ok_iff.mp cut
  exact found

theorem exists_lead {s : Section} {earlier late : List Section}
    (inner : ∀ t ∈ tokens, t.kind ≠ .stop)
    (cut : cutClauses last d tokens = .ok (before, earlier ++ s :: late)) :
    ∃ lead rest, tokens = lead ++ rest ∧ cutClauses (some s.clause) 0 rest = .ok (s.body, late) ∧
      ∀ more, cutClauses last d (lead ++ more) =
        (fun cut => (before, earlier ++ ⟨s.clause, s.opening, cut.1⟩ :: cut.2)) <$>
          cutClauses (some s.clause) 0 more := by
  induction earlier generalizing last d tokens before with
  | nil => exact exists_lead_first inner cut
  | cons e earlier ih =>
    obtain ⟨lead, rest, rfl, found, first⟩ := exists_lead_first inner cut
    obtain ⟨lead', rest, rfl, found, others⟩ := ih (List.forall_mem_append.mp inner).2 found
    refine ⟨lead ++ lead', rest, (List.append_assoc _ _ _).symm, found, fun more => ?_⟩
    rw [List.append_assoc, first, others, Functor.map_map]
    rfl

namespace Query

variable {source : Text} {columns : List Token} {clause : Clause} {body : List Token}
  {follow : Token}

/-! ### Queries -/

def partOf (clause : Option Clause) (columns : List Token) (sections : List Section) :
    Option (List Token) :=
  match clause with
  | none => some columns
  | some clause => bodyOf clause sections

/-- Whether tokens are a query, none of them a mark of the end. -/
def IsWhole (tokens : List Token) : Prop :=
  (∀ t ∈ tokens, t.kind ≠ .stop) ∧ ∃ columns sections, IsQuery tokens columns sections

theorem IsQuery.isBody (query : IsQuery tokens columns sections) (clause : Option Clause) :
    ∀ body ∈ partOf clause columns sections, IsBody clause body := by
  intro body there
  cases clause with
  | none =>
    cases there
    exact query.columns
  | some clause =>
    cases clause with
    | «from» =>
      obtain ⟨table, present, written⟩ := query.table
      cases present.symm.trans there
      exact written
    | «where» => exact query.condition body there
    | group => exact query.groupBy body there
    | order => exact query.orderBy body there
    | limit => exact query.limit body there
    | offset => exact query.offset body there

theorem IsWhole.cut (whole : IsWhole tokens) :
    ∃ columns sections, cutClauses none 0 tokens = .ok (columns, sections) ∧
      IsQuery tokens columns sections := by
  obtain ⟨inner, columns, sections, query⟩ := whole
  exact ⟨columns, sections, cutClauses_of_layout query.layout inner query.joinFree
    (inOrder_none_iff.mpr query.ordered), query⟩

theorem body?_eq_some (found : body? clause stop sections = some (body, follow)) :
    ∃ earlier opening late, sections = earlier ++ ⟨clause, opening, body⟩ :: late ∧
      (∀ s ∈ earlier, s.clause ≠ clause) ∧
      follow = (late.head?.map Section.opening).getD stop := by
  induction sections with
  | nil => cases found
  | cons s sections ih =>
    rw [body?] at found
    split at found
    · rename_i same
      cases found
      subst same
      exact ⟨[], s.opening, sections, rfl, by simp, rfl⟩
    · rename_i other
      obtain ⟨earlier, opening, late, rfl, others, after⟩ := ih found
      exact ⟨s :: earlier, opening, late, rfl, List.forall_mem_cons.mpr ⟨other, others⟩, after⟩

theorem bodyOf_append {earlier late : List Section} {opening : Token}
    (others : ∀ s ∈ earlier, s.clause ≠ clause) :
    bodyOf clause (earlier ++ ⟨clause, opening, body⟩ :: late) = some body := by
  have absent : earlier.find? (·.clause = clause) = none := by
    simpa [List.find?_eq_none] using others
  simp [bodyOf, List.find?_append, absent]

/-! ### Parts of a query -/

theorem blames_of_columns (inner : ∀ t ∈ tokens, t.kind ≠ .stop)
    (cut : cutClauses none 0 tokens = .ok (columns, sections))
    (blames : Blames (IsBody none) ((sections.head?.map Section.opening).getD stop) columns fault) :
    Blames IsWhole stop tokens fault := by
  refine (blames_of_body inner cut blames).imp fun tokens whole => ?_
  obtain ⟨columns, sections, cut, query⟩ := whole.cut
  exact ⟨columns, sections, cut, query.isBody none columns rfl⟩

theorem blames_of_clause (inner : ∀ t ∈ tokens, t.kind ≠ .stop)
    (cut : cutClauses none 0 tokens = .ok (columns, sections))
    (found : body? clause stop sections = some (body, follow))
    (blames : Blames (IsBody (some clause)) follow body fault) :
    Blames IsWhole stop tokens fault := by
  obtain ⟨earlier, opening, late, rfl, others, rfl⟩ := body?_eq_some found
  obtain ⟨lead, rest, rfl, found, resumes⟩ := exists_lead inner cut
  refine (blames_of_body (List.forall_mem_append.mp inner).2 found blames).append lead
    fun more whole => ?_
  obtain ⟨columns', sections', cut, query⟩ := whole.cut
  rw [resumes] at cut
  obtain ⟨⟨body', late'⟩, found, ⟨⟩⟩ := map_ok_iff.mp cut
  exact ⟨body', late', found, query.isBody (some clause) _ (bodyOf_append others)⟩

theorem head?_of_table (ordered : InOrder none sections)
    (present : bodyOf .from sections = some body) :
    sections.head?.map Section.clause = some .from := by
  cases sections with
  | nil => cases present
  | cons s late =>
    by_cases first : s.clause = .from
    · exact congrArg some first
    · rw [bodyOf, List.find?_cons_of_neg (by simpa using first), Option.map_eq_some_iff] at present
      obtain ⟨later, found, -⟩ := present
      have follows := (inOrder_iff.mp ordered.2).1 later (List.mem_of_find?_eq_some found)
      have table : later.clause = .from := by simpa using List.find?_some found
      simp [Clause.follows, table, Clause.rank] at follows

theorem blames_table (inner : ∀ t ∈ tokens, t.kind ≠ .stop)
    (cut : cutClauses none 0 tokens = .ok (columns, sections))
    (absent : body? .from stop sections = none) :
    Blames IsWhole stop tokens (.atToken ((sections.head?.map Section.opening).getD stop)) := by
  have missing : bodyOf .from sections = none := by rw [← body?_fst .from stop, absent]; rfl
  refine (blames_behind (fun _ sections => InOrder none sections ∧
    ∃ body, bodyOf .from sections = some body) inner cut ?_).imp fun tokens whole => ?_
  · rintro others same ⟨ordered, body, present⟩
    have first := same.symm.trans (head?_of_table ordered present)
    obtain ⟨s, late, rfl⟩ : ∃ s late, sections = s :: late := by
      cases sections with
      | nil => cases first
      | cons s late => exact ⟨s, late, rfl⟩
    have opens : s.clause = .from := Option.some.inj first
    simp [bodyOf, opens] at missing
  · obtain ⟨columns, sections, cut, query⟩ := whole.cut
    obtain ⟨body, present, -⟩ := query.table
    exact ⟨columns, sections, cut, inOrder_none_iff.mpr query.ordered, body, present⟩

theorem clause?_blames {α : Type} {read : Token → List Token → Except Fault α}
    (inner : ∀ t ∈ tokens, t.kind ≠ .stop)
    (cut : cutClauses none 0 tokens = .ok (columns, sections))
    (each : ∀ {follow body}, read follow body = .error fault →
      Blames (IsBody (some clause)) follow body fault)
    (refused : clause? clause stop sections read = .error fault) :
    Blames IsWhole stop tokens fault := by
  obtain ⟨body, follow, found, refused⟩ := exists_of_clause?_error refused
  exact blames_of_clause inner cut found (each refused)

/-! ### Directions without a column -/

theorem isQuery_of_isBody (inner : ∀ t ∈ tokens, t.kind ≠ .stop)
    (cut : cutClauses none 0 tokens = .ok (columns, sections))
    (table : ∃ body, bodyOf .from sections = some body)
    (each : ∀ clause, ∀ body ∈ partOf clause columns sections, IsBody clause body) :
    IsQuery tokens columns sections := by
  obtain ⟨layout, joinFree, ordered⟩ := layout_of_cutClauses inner cut
  obtain ⟨body, present⟩ := table
  exact ⟨layout, joinFree, inOrder_none_iff.mp ordered,
    each none columns rfl, ⟨body, present, each (some .from) body present⟩, each (some .where),
    each (some .group), each (some .order), each (some .limit), each (some .offset)⟩

theorem bodyOf_earlier {earlier late : List Section} {opening opening' : Token}
    {own other : List Token} {last : Clause}
    (ordered : InOrder none (earlier ++ ⟨last, opening, own⟩ :: late))
    (there : body ∈ bodyOf clause (earlier ++ [⟨last, opening', other⟩])) :
    (clause = last ∧ body = other) ∨
      clause.rank < last.rank ∧ body ∈ bodyOf clause (earlier ++ ⟨last, opening, own⟩ :: late) := by
  obtain ⟨s, found, rfl⟩ := Option.map_eq_some_iff.mp there
  have ascending := (List.pairwise_append.mp (inOrder_iff.mp ordered).2).2.2
  rw [List.find?_append] at found
  cases before : earlier.find? (·.clause = clause) with
  | none =>
    rw [before, Option.none_or, List.find?_singleton] at found
    split at found
    · rename_i same
      cases found
      exact .inl ⟨(by simpa using same : last = clause).symm, rfl⟩
    · cases found
  | some e =>
    rw [before, Option.some_or] at found
    cases found
    have same : s.clause = clause := by simpa using List.find?_some before
    refine .inr ⟨?_, ?_⟩
    · rw [← same]
      exact ascending s (List.mem_of_find?_eq_some before) _ List.mem_cons_self
    · rw [bodyOf, List.find?_append, before]
      rfl

theorem table_earlier {s : Section} {earlier late : List Section}
    (ordered : InOrder none (earlier ++ s :: late))
    (table : ∃ body, bodyOf .from (earlier ++ s :: late) = some body) (other : s.clause ≠ .from)
    (others : List Section) : ∃ body, bodyOf .from (earlier ++ others) = some body := by
  obtain ⟨_, present⟩ := table
  have first := head?_of_table ordered present
  cases earlier with
  | nil => exact absurd (Option.some.inj first) other
  | cons e earlier =>
    have opens : e.clause = .from := Option.some.inj first
    exact ⟨e.body, by simp [bodyOf, opens]⟩

/-- Whether `start` leads up to what a query is to be sorted by, and `rest` goes on with a list that
names a direction without a column. -/
def SortsByNothing (start rest : List Token) : Prop :=
  ∃ columns earlier opening body late,
    cutClauses none 0 start = .ok (columns, earlier ++ [⟨.order, opening, []⟩]) ∧
    cutClauses (some .order) 0 rest = .ok (body, late) ∧ HasLoneDirection body

theorem HasLoneDirection.first {t : Token} {behind : List Token}
    (lone : HasLoneDirection (t :: behind)) : t.kind ≠ .comma := by
  obtain ⟨items, split, -⟩ := lone
  intro comma
  have cut : cutItems t (t :: behind) = .ok items := cutItems_of_items split
  simp [cutItems, cutItemsFrom, comma] at cut

theorem isBody_named {t u : Token} (first : t.kind ≠ .comma) (name : u.kind = .identifier) :
    IsBody (some .order) [t, u] := by
  refine ⟨[[t, u]], .last (by simp) ?_, ?_⟩
  · refine Token.eachOutside_cons.mpr ⟨fun _ => first, ?_⟩
    exact Token.eachOutside_cons.mpr ⟨fun _ => by simp [name], Token.eachOutside_nil⟩
  · rintro item member ⟨_, _, single, -⟩
    rw [List.mem_singleton.mp member] at single
    cases single

theorem isReadable_earlier {earlier late : List Section} {opening opening' : Token}
    {own other : List Token}
    (ordered : InOrder none (earlier ++ ⟨.order, opening, own⟩ :: late))
    (filters : ∀ body ∈ bodyOf .where (earlier ++ ⟨.order, opening, own⟩ :: late),
      ∀ what, condition? source body ≠ some (.error what)) :
    IsReadable source (earlier ++ [⟨.order, opening', other⟩]) := by
  have sorted : ∀ {clause : Clause}, clause ≠ .order → ¬clause.rank < Clause.order.rank →
      ∀ body, body ∉ bodyOf clause (earlier ++ [⟨.order, opening', other⟩]) := by
    intro clause differs above body there
    rcases bodyOf_earlier ordered there with ⟨same, -⟩ | ⟨below, -⟩
    · exact differs same
    · exact above below
  refine ⟨fun body there => ?_, fun body there => ?_, fun body there => ?_⟩
  · rcases bodyOf_earlier ordered there with ⟨⟨⟩, -⟩ | ⟨-, there⟩
    exact filters body there
  · exact absurd there (sorted (by decide) (by decide) body)
  · exact absurd there (sorted (by decide) (by decide) body)

/-- The first token of a list to sort by can be the start of its only item, with a name to follow.
So it is never where a query goes wrong that is right up to the list. -/
theorem sortsByNothing_of_body? {t : Token} {behind : List Token}
    (inner : ∀ t ∈ tokens, t.kind ≠ .stop)
    (cut : cutClauses none 0 tokens = .ok (columns, sections))
    (found : body? .order stop sections = some (t :: behind, follow))
    (lone : HasLoneDirection (t :: behind)) (listed : IsBody none columns)
    (table : ∃ body, bodyOf .from sections = some body)
    (each : ∀ clause : Clause, clause.rank < Clause.order.rank →
      ∀ body ∈ bodyOf clause sections, IsBody (some clause) body)
    (filters : ∀ body ∈ bodyOf .where sections, ∀ what,
      condition? source body ≠ some (.error what)) :
    ∃ start later, tokens = start ++ t :: later ∧ SortsByNothing start (t :: later) ∧
      ∀ u : Token, u.kind = .identifier → ∃ columns sections,
        IsQuery (start ++ [t, u]) columns sections ∧ IsReadable source sections := by
  obtain ⟨earlier, opening, late, rfl, others, -⟩ := body?_eq_some found
  obtain ⟨-, -, ordered⟩ := layout_of_cutClauses inner cut
  obtain ⟨start, rest, rfl, found, resumes⟩ := exists_lead inner cut
  obtain ⟨before, inner⟩ := List.forall_mem_append.mp inner
  have passed := (passedOver_of_cutClauses inner found).1
  obtain ⟨tail, rfl⟩ := exists_tail_of_cutClauses inner found
  refine ⟨start, behind ++ tail, rfl, ⟨columns, earlier, opening, _, late, ?_, found, lone⟩, ?_⟩
  · have resumed := resumes []
    rwa [List.append_nil] at resumed
  · intro u name
    have passed : PassedOver 0 [t, u] := (passed.front (a := [t])).name name
    have resumed := resumes [t, u]
    rw [passed.cut_eq] at resumed
    refine ⟨_, _, isQuery_of_isBody (List.forall_mem_append.mpr ⟨before, passed.inner⟩) resumed
      (table_earlier ordered table (by simp) _) ?_, isReadable_earlier ordered filters⟩
    intro clause body there
    cases clause with
    | none =>
      cases there
      exact listed
    | some clause =>
      rcases bodyOf_earlier ordered there with ⟨rfl, rfl⟩ | ⟨below, there⟩
      · exact isBody_named lone.first name
      · exact each clause below body there

theorem isBody_of_clauses {table : Text} {tableAlias : Option Text}
    {condition : Option (Option Condition)} {groupBy : Option (List Text)}
    (present : bodyOf .from sections = some body)
    (named : source? follow body = .ok (table, tableAlias))
    (filtered : clause? .where stop sections (filter? source) = .ok condition)
    (grouped : clause? .group stop sections (columns? source) = .ok groupBy) (clause : Clause)
    (below : clause.rank < Clause.order.rank) :
    ∀ body ∈ bodyOf clause sections, IsBody (some clause) body := by
  intro other there
  cases clause with
  | «from» =>
    cases present.symm.trans there
    exact ⟨table, tableAlias, source?_eq_ok_iff.mp named⟩
  | «where» =>
    obtain ⟨_, filled, -⟩ := exists_rel_iff.mp ⟨_, filterClause_iff.mp filtered⟩ other there
    exact filled
  | group =>
    obtain ⟨_, items, split, -⟩ := exists_rel_iff.mp ⟨_, columnsClause_iff.mp grouped⟩ other there
    exact ⟨items, split⟩
  | order | limit | offset => exact absurd below (by decide)

/-! ### Whole queries -/

/-- Tokens that are no query are at fault at their end or where nothing makes them a query, but for
a direction without a column. -/
theorem ofTokens?_blames (ends : stop.kind = .stop) (inner : ∀ t ∈ tokens, t.kind ≠ .stop)
    (caught : fault.kind ≠ .uncaught)
    (refused : ofTokens? source (tokens ++ [stop]) = .error fault) :
    Blames IsWhole stop tokens fault ∨
      ∃ start t later, tokens = start ++ t :: later ∧ fault = .atToken t ∧
        SortsByNothing start (t :: later) ∧
        ∀ u : Token, u.kind = .identifier → ∃ columns sections,
          IsQuery (start ++ [t, u]) columns sections ∧ IsReadable source sections := by
  unfold ofTokens? at refused
  rw [List.getLast?_concat, Option.getD_some, cutClauses_append_stop ends inner,
    bind_error_iff] at refused
  rcases refused with refused | ⟨⟨columns, sections⟩, cut, refused⟩
  · left
    refine (cutClauses_blames ends refused).imp fun tokens whole => ?_
    obtain ⟨columns, sections, cut, -⟩ := whole.cut
    exact ⟨_, cut⟩
  dsimp only at refused
  split at refused
  · rename_i absent
    cases refused
    exact .inl (blames_table inner cut absent)
  rename_i body follow found
  simp only [bind_error_iff] at refused
  rcases refused with refused | ⟨_, listed, refused | ⟨⟨table, tableAlias⟩, named, refused |
    ⟨_, filtered, refused | ⟨_, grouped, refused | ⟨_, -, refused | ⟨_, -, refused |
    ⟨_, -, ⟨⟩⟩⟩⟩⟩⟩⟩⟩
  · exact .inl (blames_of_columns inner cut (columns?_blames refused))
  · exact .inl (blames_of_clause inner cut found (source?_blames refused))
  · exact .inl (clause?_blames inner cut (filter?_blames caught) refused)
  · exact .inl (clause?_blames inner cut columns?_blames refused)
  · obtain ⟨sorted, after, there, refused⟩ := exists_of_clause?_error refused
    rcases sortItems?_blames refused with blames | ⟨lone, t, behind, rfl, rfl⟩
    · exact .inl (blames_of_clause inner cut there blames)
    right
    have present : bodyOf .from sections = some body := by
      rw [← body?_fst .from stop, found, Option.map_some]
    obtain ⟨items, split, -⟩ := columns?_eq_ok_iff.mp listed
    obtain ⟨start, later, whole, sorts⟩ :=
      sortsByNothing_of_body? inner cut there lone ⟨items, split⟩ ⟨body, present⟩
        (isBody_of_clauses present named filtered grouped)
        fun body there =>
          let ⟨_, filter⟩ := exists_rel_iff.mp ⟨_, filterClause_iff.mp filtered⟩ body there
          filter.ne_error
    exact ⟨start, t, later, whole, rfl, sorts⟩
  · exact .inl (clause?_blames inner cut (count?_blames caught) refused)
  · exact .inl (clause?_blames inner cut (count?_blames caught) refused)

end Query

end SqlConsole
