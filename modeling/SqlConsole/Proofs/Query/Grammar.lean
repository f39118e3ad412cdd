import SqlConsole.Statement.Parse
import SqlConsole.Proofs.Query.Body
import SqlConsole.Proofs.Query.Faults
import SqlConsole.Proofs.Token.Lexeme
import Mathlib.Data.List.Sort

/-!
# Grammar of queries

The tokens that are a query are given by a grammar (`IsQuery`), and what a query asks for by the
source text of its items (`Reading`). Reading tokens succeeds exactly on the queries whose numbers
are not too long (`IsReadable`), and gives what they ask for (`ofTokens?_reads_queries`).
-/

namespace SqlConsole

/-! ### Order of the clauses -/

def Clause.all : List Clause := [.from, .where, .group, .order, .limit, .offset]

theorem inOrder_iff {last : Option Clause} {sections : List Section} :
    InOrder last sections ↔ (∀ s ∈ sections, s.clause.follows last = true) ∧
      sections.Pairwise fun s t => s.clause.rank < t.clause.rank := by
  induction sections generalizing last with
  | nil => simp [InOrder]
  | cons s sections ih =>
    rw [InOrder, ih, List.forall_mem_cons, List.pairwise_cons]
    simp only [Clause.follows, decide_eq_true_eq]
    constructor
    · intro given
      obtain ⟨first, later, ascending⟩ := given
      refine ⟨⟨first, fun t member => ?_⟩, later, ascending⟩
      cases last with
      | none => rfl
      | some earlier =>
        have above := later t member
        simp only [decide_eq_true_eq] at first ⊢
        omega
    · intro given
      obtain ⟨⟨first, -⟩, later, ascending⟩ := given
      exact ⟨first, later, ascending⟩

theorem inOrder_none_iff {sections : List Section} :
    InOrder none sections ↔ (sections.map Section.clause).Sublist Clause.all := by
  have antisymm : Std.Antisymm fun c d : Clause => c.rank < d.rank := ⟨fun c d _ _ => by omega⟩
  have canonical : Clause.all.Pairwise fun c d => c.rank < d.rank := by decide
  rw [inOrder_iff]
  constructor
  · intro given
    obtain ⟨-, ascending⟩ := given
    have ascending : (sections.map Section.clause).Pairwise fun c d => c.rank < d.rank :=
      List.pairwise_map.mpr ascending
    have distinct : (sections.map Section.clause).Nodup :=
      ascending.imp fun {c d} below same => by simp [same] at below
    have every : ∀ clause ∈ sections.map Section.clause, clause ∈ Clause.all := by
      intro clause _
      cases clause <;> decide
    exact List.sublist_of_subperm_of_pairwise (List.subperm_of_subset distinct every) ascending
      canonical
  · intro sublist
    have ascending := canonical.sublist sublist
    rw [List.pairwise_map] at ascending
    exact ⟨fun _ _ => rfl, ascending⟩

namespace Query

open Token (EachOutside)

/-! ### Queries and what they ask for -/

def IsLoneDirection (item : List Token) : Prop :=
  ∃ t direction, item = [t] ∧ t.kind = directionWord direction

/-- The tokens of a query after its first word, with those of its columns and with its clauses. -/
structure IsQuery (tokens columns : List Token) (sections : List Section) : Prop where
  layout : Layout 0 tokens columns sections
  joinFree : EachOutside 0 (·.kind ≠ .keyword .join) tokens
  ordered : (sections.map Section.clause).Sublist Clause.all
  columns : ∃ items, Items columns items
  table : ∃ body ∈ bodyOf .from sections, ∃ table tableAlias, IsSource body table tableAlias
  condition : ∀ body ∈ bodyOf .where sections, body ≠ []
  groupBy : ∀ body ∈ bodyOf .group sections, ∃ items, Items body items
  orderBy : ∀ body ∈ bodyOf .order sections,
    ∃ items, Items body items ∧ ∀ item ∈ items, ¬IsLoneDirection item
  limit : ∀ body ∈ bodyOf .limit sections, ∃ t, body = [t] ∧ t.kind = .integer
  offset : ∀ body ∈ bodyOf .offset sections, ∃ t, body = [t] ∧ t.kind = .integer

/-- Whether the numbers of a query are short enough to be read: those of its limit and offset, and
the one of its condition if there is one. -/
structure IsReadable (source : Text) (sections : List Section) : Prop where
  condition : ∀ body ∈ bodyOf .where sections, ∀ what, condition? source body ≠ some (.error what)
  limit : ∀ body ∈ bodyOf .limit sections, ∀ t ∈ body, t.value.IsShort
  offset : ∀ body ∈ bodyOf .offset sections, ∀ t ∈ body, t.value.IsShort

def IsFilter (source : Text) (body : List Token) (condition : Option Condition) : Prop :=
  body ≠ [] ∧ condition? source body = condition.map .ok

/-- The selection that columns and clauses stand for. A clause that is absent gives nothing. -/
structure Reading (source : Text) (columns : List Token) (sections : List Section)
    (selection : Selection) : Prop where
  columns : ListsColumns source columns selection.columns
  table : ∃ body ∈ bodyOf .from sections, IsSource body selection.table selection.tableAlias
  condition : ∃ found, Option.Rel (IsFilter source) (bodyOf .where sections) found ∧
    selection.condition = found.join
  groupBy : ∃ found, Option.Rel (ListsColumns source) (bodyOf .group sections) found ∧
    selection.groupBy = found.getD []
  orderBy : ∃ found, Option.Rel (ListsSortItems source) (bodyOf .order sections) found ∧
    selection.orderBy = found.getD []
  limit : Option.Rel IsCount (bodyOf .limit sections) selection.limit
  offset : Option.Rel IsCount (bodyOf .offset sections) selection.offset

variable {source : Text} {stop : Token} {tokens columns : List Token} {sections : List Section}
  {selection : Selection}

theorem IsFilter.ne_error {body : List Token} {condition : Option Condition}
    (filter : IsFilter source body condition) (what : Overlong) :
    condition? source body ≠ some (.error what) := by
  rw [filter.2]
  cases condition <;> simp

/-! ### Reading a query -/

section

variable {clause : Clause}

theorem filter?_eq_ok_iff {follow : Token} {body : List Token} {condition : Option Condition} :
    filter? source follow body = .ok condition ↔ IsFilter source body condition := by
  unfold filter? IsFilter
  by_cases empty : body = []
  · simp [empty]
  · rw [if_neg empty, and_iff_right empty]
    cases condition? source body with
    | none => cases condition <;> simp [pure, Except.pure]
    | some result => cases result <;> cases condition <;> simp [Except.mapError]

theorem filterClause_iff {found : Option (Option Condition)} :
    clause? clause stop sections (filter? source) = .ok found ↔
      Option.Rel (IsFilter source) (bodyOf clause sections) found :=
  clause?_eq_ok_iff fun _ _ _ => filter?_eq_ok_iff

theorem columnsClause_iff {found : Option (List Text)} :
    clause? clause stop sections (columns? source) = .ok found ↔
      Option.Rel (ListsColumns source) (bodyOf clause sections) found :=
  clause?_eq_ok_iff fun _ _ _ => columns?_eq_ok_iff

theorem sortItemsClause_iff {found : Option (List SortItem)} :
    clause? clause stop sections (sortItems? source) = .ok found ↔
      Option.Rel (ListsSortItems source) (bodyOf clause sections) found :=
  clause?_eq_ok_iff fun _ _ _ => sortItems?_eq_ok_iff

theorem countClause_iff {found : Option Nat} :
    clause? clause stop sections count? = .ok found ↔
      Option.Rel IsCount (bodyOf clause sections) found :=
  clause?_eq_ok_iff fun _ _ _ => count?_eq_ok_iff

end

theorem body?_eq_some_of_bodyOf (stop : Token) {clause : Clause} {body : List Token}
    (there : bodyOf clause sections = some body) :
    ∃ follow, body? clause stop sections = some (body, follow) := by
  rw [← body?_fst clause stop, Option.map_eq_some_iff] at there
  obtain ⟨⟨_, follow⟩, found, rfl⟩ := there
  exact ⟨follow, found⟩

theorem reading_of_ofTokens? (ends : stop.kind = .stop) (inner : ∀ t ∈ tokens, t.kind ≠ .stop)
    (read : ofTokens? source (tokens ++ [stop]) = .ok selection) :
    ∃ columns sections, cutClauses none 0 tokens = .ok (columns, sections) ∧
      Reading source columns sections selection := by
  unfold ofTokens? at read
  rw [List.getLast?_concat, Option.getD_some, cutClauses_append_stop ends inner,
    bind_ok_iff] at read
  obtain ⟨⟨columns, sections⟩, cut, read⟩ := read
  refine ⟨columns, sections, cut, ?_⟩
  dsimp only at read
  split at read
  · cases read
  rename_i body follow found
  have present : bodyOf .from sections = some body := by
    rw [← body?_fst .from stop, found, Option.map_some]
  simp only [bind_ok_iff, columns?_eq_ok_iff] at read
  obtain ⟨columnTexts, listed, ⟨table, tableAlias⟩, named, condition, filtered, groupBy, grouped,
    orderBy, sorted, limit, limited, offset, skipped, result⟩ := read
  cases result
  exact {
    columns := listed
    table := ⟨body, present, source?_eq_ok_iff.mp named⟩
    condition := ⟨condition, filterClause_iff.mp filtered, rfl⟩
    groupBy := ⟨groupBy, columnsClause_iff.mp grouped, rfl⟩
    orderBy := ⟨orderBy, sortItemsClause_iff.mp sorted, rfl⟩
    limit := countClause_iff.mp limited
    offset := countClause_iff.mp skipped }

theorem ofTokens?_of_reading (ends : stop.kind = .stop) (inner : ∀ t ∈ tokens, t.kind ≠ .stop)
    (cut : cutClauses none 0 tokens = .ok (columns, sections))
    (reading : Reading source columns sections selection) :
    ofTokens? source (tokens ++ [stop]) = .ok selection := by
  obtain ⟨body, present, named⟩ := reading.table
  obtain ⟨follow, found⟩ := body?_eq_some_of_bodyOf stop present
  obtain ⟨condition, filtered, conditionIs⟩ := reading.condition
  obtain ⟨groupBy, grouped, groupByIs⟩ := reading.groupBy
  obtain ⟨orderBy, sorted, orderByIs⟩ := reading.orderBy
  unfold ofTokens?
  rw [List.getLast?_concat, Option.getD_some, cutClauses_append_stop ends inner, cut]
  simp only [found, columns?_eq_ok_iff.mpr reading.columns, source?_eq_ok_iff.mpr named,
    filterClause_iff.mpr filtered, columnsClause_iff.mpr grouped, sortItemsClause_iff.mpr sorted,
    countClause_iff.mpr reading.limit, countClause_iff.mpr reading.offset, bind, Except.bind,
    ← conditionIs, ← groupByIs, ← orderByIs]
  rfl

/-- Reading the tokens of a query gives a selection exactly if cutting them finds columns and
clauses that stand for it. -/
theorem ofTokens?_eq_ok_iff (ends : stop.kind = .stop) (inner : ∀ t ∈ tokens, t.kind ≠ .stop) :
    ofTokens? source (tokens ++ [stop]) = .ok selection ↔
      ∃ columns sections, cutClauses none 0 tokens = .ok (columns, sections) ∧
        Reading source columns sections selection :=
  ⟨reading_of_ofTokens? ends inner, fun ⟨_, _, cut, reading⟩ =>
    ofTokens?_of_reading ends inner cut reading⟩

/-! ### Queries have readings -/

theorem exists_rel_iff {α β : Type} {reads : α → β → Prop} {given : Option α} :
    (∃ value, Option.Rel reads given value) ↔ ∀ a ∈ given, ∃ b, reads a b := by
  cases given with
  | none => exact ⟨fun _ _ member => absurd member (by simp), fun _ => ⟨none, .none⟩⟩
  | some a =>
    constructor
    · rintro ⟨_, related⟩ b member
      cases related with
      | some read =>
        cases member
        exact ⟨_, read⟩
    · intro each
      obtain ⟨b, read⟩ := each a rfl
      exact ⟨some b, .some read⟩

theorem exists_sortsBy_iff {item : List Token} (present : item ≠ []) :
    (∃ sorts, SortsBy source item sorts) ↔ ¬IsLoneDirection item := by
  constructor
  · rintro ⟨sorts, sorted⟩ ⟨t, direction, rfl, word⟩
    generalize single : [t] = item at sorted
    replace single : [] ++ [t] = item := single
    cases sorted with
    | @plain column u wordless =>
      obtain ⟨-, same⟩ := List.append_inj' single rfl
      obtain ⟨rfl, -⟩ := List.cons.inj same
      exact wordless direction word
    | @worded column u _ nonempty _ =>
      obtain ⟨empty, -⟩ := List.append_inj' single rfl
      exact nonempty empty.symm
  · intro columned
    obtain ⟨column, t, rfl⟩ := (List.eq_nil_or_concat' item).resolve_left present
    by_cases wordless : ∀ direction, t.kind ≠ directionWord direction
    · exact ⟨_, .plain wordless⟩
    · simp only [ne_eq, not_forall, not_not] at wordless
      obtain ⟨direction, word⟩ := wordless
      refine ⟨_, .worded (fun empty => columned ⟨t, direction, ?_, word⟩) word⟩
      rw [empty, List.nil_append]

theorem exists_listsSortItems_iff {body : List Token} :
    (∃ order, ListsSortItems source body order) ↔
      ∃ items, Items body items ∧ ∀ item ∈ items, ¬IsLoneDirection item := by
  unfold ListsSortItems
  rw [exists_comm]
  refine exists_congr fun items => ?_
  rw [exists_and_left, exists_forall₂_iff]
  refine and_congr_right fun split => forall₂_congr fun item member => ?_
  exact exists_sortsBy_iff (split.present item member)

theorem isReadable_of_reading (reading : Reading source columns sections selection) :
    IsReadable source sections := by
  obtain ⟨condition, filtered, -⟩ := reading.condition
  have counts : ∀ {clause : Clause} {count : Option Nat},
      Option.Rel IsCount (bodyOf clause sections) count →
      ∀ body ∈ bodyOf clause sections, ∀ t ∈ body, t.value.IsShort := by
    intro clause count counted body there t member
    obtain ⟨_, u, rfl, -, read⟩ := exists_rel_iff.mp ⟨_, counted⟩ body there
    obtain rfl := List.mem_singleton.mp member
    exact (Text.natural?_eq_ok_iff.mp read).1
  refine ⟨fun body there => ?_, counts reading.limit, counts reading.offset⟩
  obtain ⟨found, filter⟩ := exists_rel_iff.mp ⟨_, filtered⟩ body there
  exact filter.ne_error

theorem isQuery_of_reading (cut : cutClauses none 0 tokens = .ok (columns, sections))
    (inner : ∀ t ∈ tokens, t.kind ≠ .stop) (reading : Reading source columns sections selection) :
    IsQuery tokens columns sections := by
  obtain ⟨layout, joinFree, ordered⟩ := layout_of_cutClauses inner cut
  obtain ⟨items, split, -⟩ := reading.columns
  obtain ⟨body, present, named⟩ := reading.table
  obtain ⟨condition, filtered, -⟩ := reading.condition
  obtain ⟨groupBy, grouped, -⟩ := reading.groupBy
  obtain ⟨orderBy, sorted, -⟩ := reading.orderBy
  have counts : ∀ {clause : Clause} {count : Option Nat},
      Option.Rel IsCount (bodyOf clause sections) count →
      ∀ body ∈ bodyOf clause sections, ∃ t, body = [t] ∧ t.kind = .integer := by
    intro clause count counted body there
    obtain ⟨_, t, single, number, -⟩ := exists_rel_iff.mp ⟨_, counted⟩ body there
    exact ⟨t, single, number⟩
  refine ⟨layout, joinFree, inOrder_none_iff.mp ordered, ⟨items, split⟩,
    ⟨body, present, _, _, named⟩, ?_, ?_, ?_, counts reading.limit, counts reading.offset⟩
  · intro body there
    obtain ⟨_, present, -⟩ := exists_rel_iff.mp ⟨_, filtered⟩ body there
    exact present
  · intro body there
    obtain ⟨_, items, split, -⟩ := exists_rel_iff.mp ⟨_, grouped⟩ body there
    exact ⟨items, split⟩
  · intro body there
    exact exists_listsSortItems_iff.mp (exists_rel_iff.mp ⟨_, sorted⟩ body there)

theorem exists_reading_of_isQuery (query : IsQuery tokens columns sections)
    (readable : IsReadable source sections) :
    ∃ selection, Reading source columns sections selection := by
  obtain ⟨items, split⟩ := query.columns
  obtain ⟨body, present, table, tableAlias, named⟩ := query.table
  have counts : ∀ {clause : Clause},
      (∀ body ∈ bodyOf clause sections, ∃ t, body = [t] ∧ t.kind = .integer) →
      (∀ body ∈ bodyOf clause sections, ∀ t ∈ body, t.value.IsShort) →
      ∃ count, Option.Rel IsCount (bodyOf clause sections) count := by
    intro clause each short
    refine exists_rel_iff.mpr fun body there => ?_
    obtain ⟨t, rfl, number⟩ := each body there
    have read := Text.natural?_eq_ok_iff.mpr ⟨short _ there t (List.mem_singleton_self t), rfl⟩
    exact ⟨_, t, rfl, number, read⟩
  obtain ⟨condition, filtered⟩ : ∃ found,
      Option.Rel (IsFilter source) (bodyOf .where sections) found := by
    refine exists_rel_iff.mpr fun body there => ?_
    obtain ⟨found, read⟩ : ∃ found, condition? source body = Option.map .ok found := by
      cases result : condition? source body with
      | none => exact ⟨none, rfl⟩
      | some result' =>
        cases result' with
        | ok c => exact ⟨some c, rfl⟩
        | error what => exact absurd result (readable.condition body there what)
    exact ⟨found, query.condition body there, read⟩
  obtain ⟨groupBy, grouped⟩ : ∃ found,
      Option.Rel (ListsColumns source) (bodyOf .group sections) found := by
    refine exists_rel_iff.mpr fun body there => ?_
    obtain ⟨items, split⟩ := query.groupBy body there
    exact ⟨_, items, split, rfl⟩
  obtain ⟨orderBy, sorted⟩ : ∃ found,
      Option.Rel (ListsSortItems source) (bodyOf .order sections) found :=
    exists_rel_iff.mpr fun body there => exists_listsSortItems_iff.mpr (query.orderBy body there)
  obtain ⟨limit, limited⟩ := counts query.limit readable.limit
  obtain ⟨offset, skipped⟩ := counts query.offset readable.offset
  exact ⟨⟨items.map (slice source), table, tableAlias, condition.join, groupBy.getD [],
    orderBy.getD [], limit, offset⟩, ⟨items, split, rfl⟩, ⟨body, present, named⟩,
    ⟨condition, filtered, rfl⟩, ⟨groupBy, grouped, rfl⟩, ⟨orderBy, sorted, rfl⟩, limited, skipped⟩

/-! ### Queries in a source text -/

theorem scan_of_tokens? {tokens : List Token} (scanned : Statement.tokens? source = .ok tokens) :
    Token.scan source = tokens := by
  unfold Statement.tokens? at scanned
  dsimp only at scanned
  split at scanned
  · cases scanned
  · exact Except.ok.inj scanned

theorem tokens_of_scan {first : Token} {rest : List Token}
    (scanned : Statement.tokens? source = .ok (first :: rest)) (goesOn : first.kind ≠ .stop) :
    ∃ inner stop, rest = inner ++ [stop] ∧ stop.kind = .stop ∧ ∀ t ∈ inner, t.kind ≠ .stop := by
  have scan := scan_of_tokens? scanned
  obtain ⟨inner, stop, ending, ends, free⟩ := Token.scanFrom_inner .start 0 source
  rw [Token.scan, ending] at scan
  cases inner with
  | nil =>
    obtain ⟨rfl, -⟩ := List.cons.inj scan
    exact absurd ends goesOn
  | cons t inner =>
    obtain ⟨-, rfl⟩ := List.cons.inj scan
    exact ⟨inner, stop, rfl, ends, fun u member => free u (List.mem_cons_of_mem _ member)⟩

theorem body_of_clause?_error {α : Type} {clause : Clause} {fault : Fault}
    {read : Token → List Token → Except Fault α}
    (refused : clause? clause stop sections read = .error fault) :
    ∃ body ∈ bodyOf clause sections, ∃ follow, read follow body = .error fault := by
  obtain ⟨body, follow, found, refused⟩ := exists_of_clause?_error refused
  refine ⟨body, ?_, follow, refused⟩
  rw [← body?_fst clause stop, found]
  rfl

theorem overlong_of_mapError {α : Type} {x : Except Overlong α} {fault : Fault}
    (refused : x.mapError Fault.overlong = .error fault) : ∃ what, fault = .overlong what := by
  cases x with
  | ok a => cases refused
  | error what =>
    cases refused
    exact ⟨what, rfl⟩

theorem overlong_of_count? {t follow : Token} {fault : Fault} (number : t.kind = .integer)
    (refused : count? follow [t] = .error fault) : ∃ what, fault = .overlong what := by
  rw [count?, if_neg (by simp [number])] at refused
  exact overlong_of_mapError refused

theorem overlong_of_filter? {follow : Token} {body : List Token} {fault : Fault}
    (filled : body ≠ []) (refused : filter? source follow body = .error fault) :
    ∃ what, fault = .overlong what := by
  rw [filter?, if_neg filled] at refused
  cases result : condition? source body with
  | none =>
    rw [result] at refused
    cases refused
  | some found =>
    rw [result, Option.mapM_some] at refused
    exact overlong_of_mapError (map_error_iff.mp refused)

/-- What is a query is refused for its numbers only. -/
theorem overlong_of_isQuery {fault : Fault} (ends : stop.kind = .stop)
    (inner : ∀ t ∈ tokens, t.kind ≠ .stop) (query : IsQuery tokens columns sections)
    (refused : ofTokens? source (tokens ++ [stop]) = .error fault) :
    ∃ what, fault = .overlong what := by
  have cut := cutClauses_of_layout query.layout inner query.joinFree
    (inOrder_none_iff.mpr query.ordered)
  obtain ⟨items, split⟩ := query.columns
  obtain ⟨body, present, table, tableAlias, named⟩ := query.table
  obtain ⟨follow, found⟩ := body?_eq_some_of_bodyOf stop present
  unfold ofTokens? at refused
  rw [List.getLast?_concat, Option.getD_some, cutClauses_append_stop ends inner, cut,
    bind_error_iff] at refused
  obtain ⟨⟨⟩⟩ | ⟨_, ⟨⟩, refused⟩ := refused
  dsimp only at refused
  rw [found] at refused
  simp only [bind_error_iff] at refused
  -- One case for each part in the order of reading: lists and names are read, so that only the
  -- condition and the counts are left.
  rcases refused with refused | ⟨_, -, refused | ⟨_, -, refused | ⟨_, -, refused | ⟨_, -, refused |
    ⟨_, -, refused | ⟨_, -, refused | ⟨_, -, ⟨⟩⟩⟩⟩⟩⟩⟩⟩
  · rw [columns?_eq_ok_iff.mpr ⟨items, split, rfl⟩] at refused
    cases refused
  · rw [source?_eq_ok_iff.mpr named] at refused
    cases refused
  · obtain ⟨body, there, follow, refused⟩ := body_of_clause?_error refused
    exact overlong_of_filter? (query.condition body there) refused
  · obtain ⟨body, there, follow, refused⟩ := body_of_clause?_error refused
    obtain ⟨items, split⟩ := query.groupBy body there
    rw [columns?_eq_ok_iff.mpr ⟨items, split, rfl⟩] at refused
    cases refused
  · obtain ⟨body, there, follow, refused⟩ := body_of_clause?_error refused
    obtain ⟨order, sorted⟩ := exists_listsSortItems_iff.mpr (query.orderBy body there)
    rw [sortItems?_eq_ok_iff.mpr sorted] at refused
    cases refused
  · obtain ⟨_, there, follow, refused⟩ := body_of_clause?_error refused
    obtain ⟨t, rfl, number⟩ := query.limit _ there
    exact overlong_of_count? number refused
  · obtain ⟨_, there, follow, refused⟩ := body_of_clause?_error refused
    obtain ⟨t, rfl, number⟩ := query.offset _ there
    exact overlong_of_count? number refused

/-- After its first word, the tokens of a source text but for the last, which marks the end, are
read exactly if they are a query whose numbers can be read. What is read is then what the query asks
for, a query that is not read has a number that is too long, and any other tokens are refused for
their syntax or for such a number among them. -/
theorem ofTokens?_reads_queries {source : Text} {first : Token} {rest : List Token}
    (scanned : Statement.tokens? source = .ok (first :: rest))
    (query : first.kind = .keyword .select) :
    ((∃ selection, ofTokens? source rest = .ok selection) ↔
        ∃ columns sections, IsQuery rest.dropLast columns sections ∧
          IsReadable source sections) ∧
      (∀ selection columns sections, ofTokens? source rest = .ok selection →
        IsQuery rest.dropLast columns sections → Reading source columns sections selection) ∧
      ∀ fault, ofTokens? source rest = .error fault →
        (fault.kind = .syntactic ∧ ∀ columns sections, ¬IsQuery rest.dropLast columns sections) ∨
          ∃ what, fault = .overlong what ∧ what.IsOf rest := by
  obtain ⟨inner, stop, rfl, ends, free⟩ := tokens_of_scan scanned (by simp [query])
  rw [List.dropLast_concat]
  have cuts : ∀ columns sections, IsQuery inner columns sections →
      cutClauses none 0 inner = .ok (columns, sections) := fun columns sections grammar =>
    cutClauses_of_layout grammar.layout free grammar.joinFree (inOrder_none_iff.mpr grammar.ordered)
  refine ⟨⟨?_, ?_⟩, ?_, ?_⟩
  · intro given
    obtain ⟨selection, read⟩ := given
    obtain ⟨columns, sections, cut, reading⟩ := (ofTokens?_eq_ok_iff ends free).mp read
    exact ⟨columns, sections, isQuery_of_reading cut free reading, isReadable_of_reading reading⟩
  · intro given
    obtain ⟨columns, sections, grammar, readable⟩ := given
    have cut := cuts columns sections grammar
    obtain ⟨selection, reading⟩ := exists_reading_of_isQuery grammar readable
    exact ⟨selection, (ofTokens?_eq_ok_iff ends free).mpr ⟨columns, sections, cut, reading⟩⟩
  · intro selection columns sections read grammar
    obtain ⟨columns', sections', cut, reading⟩ := (ofTokens?_eq_ok_iff ends free).mp read
    have same := cut.symm.trans (cuts columns sections grammar)
    cases same
    exact reading
  · intro fault refused
    refine (ofTokens?_faults source _ fault refused).imp_left fun syntactic => ⟨syntactic, ?_⟩
    intro columns sections grammar
    obtain ⟨what, rfl⟩ := overlong_of_isQuery ends free grammar refused
    cases syntactic

/-- A query with two columns and one clause after its table. -/
theorem ofTokens?_reads_queries_limit :
    ∃ columns sections,
      IsQuery (Token.scan "select a, b from t limit 2").tail.dropLast columns sections ∧
        Reading "select a, b from t limit 2" columns sections
          ⟨["a", "b"], "t", none, none, [], [], some 2, none⟩ := by
  have scanned : Statement.tokens? "select a, b from t limit 2" =
      .ok (⟨.keyword .select, "select", 1, 1, 0, 6⟩ ::
        (Token.scan "select a, b from t limit 2").tail) := by decide +kernel
  have read : ofTokens? "select a, b from t limit 2"
      (Token.scan "select a, b from t limit 2").tail =
      .ok ⟨["a", "b"], "t", none, none, [], [], some 2, none⟩ := by decide +kernel
  obtain ⟨accepted, reads, -⟩ := ofTokens?_reads_queries scanned rfl
  obtain ⟨columns, sections, query, -⟩ := accepted.mp ⟨_, read⟩
  exact ⟨columns, sections, query, reads _ _ _ read query⟩

def overlongQuery : Text :=
  Text.ofString "select a from t\nlimit " ++ List.replicate (Text.digitLimit + 1) (.char '1')

theorem tokens?_overlongQuery :
    ∃ first rest, Statement.tokens? overlongQuery = .ok (first :: rest) ∧
      first.kind = .keyword .select ∧
      ofTokens? overlongQuery rest = .error (.overlong (.numeral 4301)) := by
  have clean : Token.firstStray? (Token.scan overlongQuery) = none := by decide +kernel
  have select : (Token.scan overlongQuery).head?.map Token.kind = some (.keyword .select) := by
    decide +kernel
  have read : ofTokens? overlongQuery (Token.scan overlongQuery).tail =
      .error (.overlong (.numeral 4301)) := by decide +kernel
  obtain ⟨first, found, starts⟩ := Option.map_eq_some_iff.mp select
  have listed := List.cons_head?_tail found
  refine ⟨first, (Token.scan overlongQuery).tail, ?_, starts, read⟩
  rw [listed, Statement.tokens?, clean]

/-- A query with a limit that is too long is neither read nor refused for its syntax. -/
theorem ofTokens?_overlong :
    ∃ first rest fault, Statement.tokens? overlongQuery = .ok (first :: rest) ∧
      first.kind = .keyword .select ∧ ofTokens? overlongQuery rest = .error fault ∧
      fault.kind ≠ .syntactic := by
  obtain ⟨first, rest, scanned, select, read⟩ := tokens?_overlongQuery
  exact ⟨first, rest, _, scanned, select, read, by decide⟩

end Query

end SqlConsole
