import SqlConsole.Proofs.Query.Written
import SqlConsole.Proofs.Statement.Overlong

/-!
# Reading what was written

The tokens of a written query fall into the clauses that were written (`reads_clauses`), so every
text of a selection whose numerals are short enough reads as that selection (`parse_rendering`).
-/

namespace SqlConsole.Rendering

open Token (EachOutside scanFrom)

variable {fits : Text → Prop} {s : Selection}

/-! ### Clauses -/

def WritesCount (fits : Text → Prop) (body : List Token) (n : Nat) : Prop :=
  ∃ t, body = [t] ∧ t.kind = .integer ∧ t.value.natural = n ∧ fits t.value

def Gives (fits : Text → Prop) (s : Selection) (source : Text) (body : List Token) : Clause → Prop
  | .from => Query.IsSource body s.table s.tableAlias
  | .where => ∃ c ∈ s.condition, WritesCondition fits source body c
  | .group => Query.ListsColumns source body s.groupBy
  | .order => Query.ListsSortItems source body s.orderBy
  | .limit => ∃ n ∈ s.limit, WritesCount fits body n
  | .offset => ∃ n ∈ s.offset, WritesCount fits body n

theorem reads_columns {columns : List Text} (present : columns ≠ [])
    (each : ∀ column ∈ columns, IsColumn column) {t : Text}
    (written : t ∈ separated (columns.map exactly)) :
    t.Reads fun source tokens => IsInner tokens ∧ Query.ListsColumns source tokens columns := by
  obtain ⟨first, others, rfl⟩ := List.exists_cons_of_ne_nil present
  have items : ∀ column ∈ first :: others, ∀ t ∈ exactly column, Text.Reads t fun source tokens =>
      (IsInline tokens ∧ tokens ≠ []) ∧ Query.slice source tokens = column := by
    rintro column member _ rfl
    exact reads_column (each _ member)
  refine (reads_separated items written).imp ?_
  intro source tokens read
  obtain ⟨inner, items, split, sliced⟩ := read
  refine ⟨inner, items, split, ?_⟩
  rw [← List.forall₂_eq_eq_eq, List.forall₂_map_right_iff]
  exact sliced.flip.imp fun _ _ same => same.symm

theorem reads_count {n : Nat} {t : Text} (written : t ∈ numeral fits n) :
    t.Reads fun _ tokens => IsInner tokens ∧ WritesCount fits tokens n := by
  refine (reads_numeral written).imp ?_
  intro source tokens read
  obtain ⟨token, rfl, kind, value, fit⟩ := read
  exact ⟨by simp [IsInner, kind, innerKind], token, rfl, kind, value, fit⟩

theorem reads_body (writable : IsWritable s) {clause : Clause} {body : Language CodePoint}
    (there : body? fits s clause = some body) {t : Text} (written : t ∈ body) :
    t.Reads fun source tokens => IsInner tokens ∧ Gives fits s source tokens clause := by
  cases clause with
  | «from» =>
    cases there
    exact reads_source writable.table writable.tableAlias written
  | «where» =>
    obtain ⟨c, present, rfl⟩ := Option.map_eq_some_iff.mp there
    obtain ⟨reference, -, plain⟩ := writable.condition c present
    refine (reads_comparison reference plain written).imp ?_
    exact fun source tokens ⟨inner, filters⟩ => ⟨inner, c, present, filters⟩
  | group =>
    obtain ⟨present, found⟩ := Option.ite_none_left_eq_some.mp there
    obtain rfl := Option.some.inj found
    exact reads_columns present (fun c member => .reference (writable.groupBy c member)) written
  | order =>
    obtain ⟨present, found⟩ := Option.ite_none_left_eq_some.mp there
    obtain rfl := Option.some.inj found
    have order : ∀ item ∈ s.orderBy, IsReference item.column := writable.orderBy
    unfold Gives
    generalize s.orderBy = items at present written order
    obtain ⟨first, others, rfl⟩ := List.exists_cons_of_ne_nil present
    refine (reads_separated (fun i member t => reads_sortItem (order i member)) written).imp ?_
    exact fun source tokens ⟨inner, items, split, sorted⟩ => ⟨inner, items, split, sorted⟩
  | limit =>
    obtain ⟨n, present, rfl⟩ := Option.map_eq_some_iff.mp there
    exact (reads_count written).imp fun _ _ ⟨inner, count⟩ => ⟨inner, n, present, count⟩
  | offset =>
    obtain ⟨n, present, rfl⟩ := Option.map_eq_some_iff.mp there
    exact (reads_count written).imp fun _ _ ⟨inner, count⟩ => ⟨inner, n, present, count⟩

theorem reads_opening {clause : Clause} {t : Text} (written : t ∈ opening clause) :
    t.Reads fun _ tokens => ∃ token joined, tokens = token :: joined ∧
      Clause.ofKind? token.kind = some clause ∧
        joined.map Token.kind = if clause.takesBy then [.keyword .by] else [] := by
  obtain ⟨w, spelt, b, bys, rfl⟩ := written
  have opens : Clause.ofKind? (.keyword (keyword clause)) = some clause := by cases clause <;> rfl
  split at bys
  · rename_i takes
    obtain ⟨g, gapG, v, bySpelt, rfl⟩ := bys
    refine ((reads_keyword spelt).gap gapG.1 gapG.2 (reads_keyword bySpelt)).imp ?_
    intro source tokens read
    obtain ⟨_, _, rfl, ⟨token, rfl, kind⟩, u, rfl, byKind⟩ := read
    exact ⟨token, [u], rfl, by rw [kind, opens], by simp [takes, byKind]⟩
  · rename_i bare
    obtain rfl := bys
    simp only [List.append_nil]
    refine (reads_keyword spelt).imp ?_
    intro source tokens read
    obtain ⟨token, rfl, kind⟩ := read
    exact ⟨token, [], rfl, by rw [kind, opens], by simp [bare]⟩

structure FallsInto (fits : Text → Prop) (s : Selection) (cs : List Clause) (source : Text)
    (tokens : List Token) (sections : List Section) : Prop where
  layout : ∀ body, IsInner body → Layout 0 (body ++ tokens) body sections
  clean : ∀ t ∈ tokens, t.kind ≠ .stop ∧ t.kind ≠ .keyword .join ∧ t.kind ≠ .stray
  clauses : sections.map Section.clause = cs.filter fun clause => (body? fits s clause).isSome
  gives : ∀ x ∈ sections, Gives fits s source x.body x.clause

theorem IsInner.clean {tokens : List Token} (inner : IsInner tokens) :
    ∀ t ∈ tokens, t.kind ≠ .stop ∧ t.kind ≠ .keyword .join ∧ t.kind ≠ .stray := fun t member =>
  ⟨inner.kind_ne rfl t member, inner.kind_ne rfl t member, inner.kind_ne rfl t member⟩

theorem opening_clean {token : Token} {joined : List Token} {clause : Clause}
    (opens : Clause.ofKind? token.kind = some clause)
    (joins : joined.map Token.kind = if clause.takesBy then [.keyword .by] else []) :
    ∀ t ∈ token :: joined, t.kind ≠ .stop ∧ t.kind ≠ .keyword .join ∧ t.kind ≠ .stray := by
  refine List.forall_mem_cons.mpr ⟨?_, fun u member => ?_⟩
  · refine ⟨?_, ?_, ?_⟩ <;> intro same <;> rw [same] at opens <;> cases opens
  · have kind : u.kind = .keyword .by := by
      have found := List.mem_map_of_mem (f := Token.kind) member
      rw [joins] at found
      split at found
      · exact List.mem_singleton.mp found
      · cases found
    simp [kind]

theorem FallsInto.cons {clause : Clause} {cs : List Clause} {source : Text} {token : Token}
    {joined body rest : List Token} {sections : List Section}
    (opens : Clause.ofKind? token.kind = some clause)
    (joins : joined.map Token.kind = if clause.takesBy then [.keyword .by] else [])
    (present : (body? fits s clause).isSome = true) (inner : IsInner body)
    (gives : Gives fits s source body clause) (falls : FallsInto fits s cs source rest sections) :
    FallsInto fits s (clause :: cs) source (token :: joined ++ (body ++ rest))
      (⟨clause, token, body⟩ :: sections) where
  layout before plain := .clause plain.clauseFree (by rw [plain.depth, Int.add_zero]) opens joins
    (falls.layout body inner)
  clean := List.forall_mem_append.mpr
    ⟨opening_clean opens joins, List.forall_mem_append.mpr ⟨inner.clean, falls.clean⟩⟩
  clauses := by simp [falls.clauses, present]
  gives := List.forall_mem_cons.mpr ⟨gives, falls.gives⟩

theorem clauses_isApart {cs : List Clause} {t after : Text} (written : t ∈ clauses fits s cs)
    (apart : after.IsApart) : Text.IsApart (t ++ after) := by
  induction cs with
  | nil =>
    obtain rfl := written
    exact apart
  | cons clause cs ih =>
    rw [clauses] at written
    split at written
    · exact ih written
    · obtain ⟨_, ⟨_, ⟨_, ⟨g, gapG, o, -, rfl⟩, h, -, rfl⟩, b, -, rfl⟩, rest, -, rfl⟩ := written
      simp only [List.append_assoc]
      exact .gap gapG.1 gapG.2 _

theorem reads_clauses (writable : IsWritable s) {cs : List Clause} {t : Text}
    (written : t ∈ clauses fits s cs) :
    t.Reads fun source tokens => ∃ sections, FallsInto fits s cs source tokens sections := by
  -- The layout is carried for any body in front, which the clause before then provides.
  induction cs generalizing t with
  | nil =>
    obtain rfl := written
    intro before after _
    refine ⟨[], Scans.blank before (by simp [Text.AllBlank]) after, [], ⟨?_, by simp, rfl, by simp⟩⟩
    intro body inner
    rw [List.append_nil]
    exact .last inner.clauseFree
  | cons clause cs ih =>
    rw [clauses] at written
    cases found : body? fits s clause with
    | none =>
      rw [found] at written
      refine (ih written).imp ?_
      intro source tokens read
      obtain ⟨sections, falls⟩ := read
      have same : (clause :: cs).filter (fun clause => (body? fits s clause).isSome) =
          cs.filter fun clause => (body? fits s clause).isSome := by simp [found]
      exact ⟨sections, { falls with clauses := falls.clauses.trans same.symm }⟩
    | some body =>
      rw [found] at written
      obtain ⟨_, ⟨_, ⟨_, ⟨g, gapG, o, opens, rfl⟩, h, gapH, rfl⟩, b, bodyIn, rfl⟩, rest, others,
        rfl⟩ := written
      have bodies := (reads_body writable found bodyIn).append
        (fun after apart => clauses_isApart others apart) (ih others)
      have reads := ((reads_opening opens).gap gapH.1 gapH.2 bodies).blank gapG.1
      simp only [List.append_assoc] at reads ⊢
      refine reads.imp ?_
      intro source tokens read
      obtain ⟨_, _, rfl, ⟨token, joined, rfl, opens, joins⟩, tb, tr, rfl, ⟨inner, gives⟩,
        sections, falls⟩ := read
      exact ⟨_, falls.cons opens joins (by rw [found]; rfl) inner gives⟩

theorem FallsInto.bodyOf {source : Text} {tokens : List Token} {sections : List Section}
    (falls : FallsInto fits s Clause.all source tokens sections) (clause : Clause) :
    (Query.bodyOf clause sections = none ∧ body? fits s clause = none) ∨
      ∃ body, Query.bodyOf clause sections = some body ∧ Gives fits s source body clause := by
  unfold Query.bodyOf
  cases found : sections.find? (·.clause = clause) with
  | none =>
    refine .inl ⟨rfl, ?_⟩
    rw [List.find?_eq_none] at found
    have absent : clause ∉ sections.map Section.clause := by
      intro member
      obtain ⟨x, inside, same⟩ := List.mem_map.mp member
      exact found x inside (decide_eq_true same)
    rw [falls.clauses, List.mem_filter] at absent
    have known : clause ∈ Clause.all := by cases clause <;> decide
    simpa [known] using absent
  | some x =>
    have same : x.clause = clause := by simpa using List.find?_some found
    exact .inr ⟨x.body, rfl, same ▸ falls.gives x (List.mem_of_find?_eq_some found)⟩

section

variable {source : Text} {columns tokens : List Token} {sections : List Section}

theorem WritesCount.isCount {body : List Token} {n : Nat} (count : WritesCount fits body n)
    (short : ∀ t ∈ body, t.value.IsShort) : Query.IsCount body n := by
  obtain ⟨t, rfl, kind, value, -⟩ := count
  exact ⟨t, rfl, kind, Text.natural?_eq_ok_iff.mpr ⟨short t (List.mem_singleton_self t), value⟩⟩

/-- The columns and the clauses of a written query stand for its selection, if its numbers can be
read. -/
theorem reading_of_fallsInto (listed : Query.ListsColumns source columns s.columns)
    (falls : FallsInto fits s Clause.all source tokens sections)
    (readable : Query.IsReadable source sections) :
    Query.Reading source columns sections s where
  columns := listed
  table := by
    rcases falls.bodyOf .from with ⟨-, absent⟩ | ⟨body, there, gives⟩
    · cases absent
    · exact ⟨body, there, gives⟩
  condition := by
    rcases falls.bodyOf .where with ⟨missing, absent⟩ | ⟨body, there, c, present, writes⟩
    · exact ⟨none, by rw [missing]; exact .none, Option.map_eq_none_iff.mp absent⟩
    · rcases writes.read with read | ⟨what, read⟩
      · exact ⟨some (some c), by rw [there]; exact .some ⟨writes.present, read⟩, present⟩
      · exact absurd read (readable.condition body there what)
  groupBy := by
    rcases falls.bodyOf .group with ⟨missing, absent⟩ | ⟨body, there, lists⟩
    · exact ⟨none, by rw [missing]; exact .none, by simpa [body?] using absent⟩
    · exact ⟨some s.groupBy, by rw [there]; exact .some lists, rfl⟩
  orderBy := by
    rcases falls.bodyOf .order with ⟨missing, absent⟩ | ⟨body, there, lists⟩
    · exact ⟨none, by rw [missing]; exact .none, by simpa [body?] using absent⟩
    · exact ⟨some s.orderBy, by rw [there]; exact .some lists, rfl⟩
  limit := by
    rcases falls.bodyOf .limit with ⟨missing, absent⟩ | ⟨body, there, n, present, count⟩
    · rw [missing, Option.map_eq_none_iff.mp absent]
      exact .none
    · rw [there, Option.mem_def.mp present]
      exact .some (count.isCount (readable.limit body there))
  offset := by
    rcases falls.bodyOf .offset with ⟨missing, absent⟩ | ⟨body, there, n, present, count⟩
    · rw [missing, Option.map_eq_none_iff.mp absent]
      exact .none
    · rw [there, Option.mem_def.mp present]
      exact .some (count.isCount (readable.offset body there))

theorem FallsInto.gives_of_mem (falls : FallsInto fits s Clause.all source tokens sections)
    (clause : Clause) : ∀ body ∈ Query.bodyOf clause sections, Gives fits s source body clause := by
  intro body there
  rcases falls.bodyOf clause with ⟨missing, -⟩ | ⟨_, found, gives⟩
  · cases missing.symm.trans there
  · cases found.symm.trans there
    exact gives

theorem isQuery_of_fallsInto {rest : List Token} (inner : ∀ t ∈ tokens, t.kind ≠ .stop)
    (cut : cutClauses none 0 tokens = .ok (columns, sections))
    (listed : Query.ListsColumns source columns s.columns)
    (falls : FallsInto fits s Clause.all source rest sections) :
    Query.IsQuery tokens columns sections := by
  obtain ⟨layout, joinFree, ordered⟩ := layout_of_cutClauses inner cut
  have gives := falls.gives_of_mem
  have count : ∀ {body : List Token} {n : Nat}, WritesCount fits body n →
      ∃ t, body = [t] ∧ t.kind = .integer := fun ⟨t, single, kind, _⟩ => ⟨t, single, kind⟩
  refine ⟨layout, joinFree, inOrder_none_iff.mp ordered, ?_, ?_, ?_, ?_, ?_, ?_, ?_⟩
  · obtain ⟨items, split, -⟩ := listed
    exact ⟨items, split⟩
  · rcases falls.bodyOf .from with ⟨-, absent⟩ | ⟨body, there, source⟩
    · cases absent
    · exact ⟨body, there, _, _, source⟩
  · intro body there
    obtain ⟨c, -, writes⟩ := gives .where body there
    exact writes.present
  · intro body there
    obtain ⟨items, split, -⟩ := gives .group body there
    exact ⟨items, split⟩
  · intro body there
    exact Query.exists_listsSortItems_iff.mp ⟨_, gives .order body there⟩
  · intro body there
    obtain ⟨n, -, writes⟩ := gives .limit body there
    exact count writes
  · intro body there
    obtain ⟨n, -, writes⟩ := gives .offset body there
    exact count writes

theorem isReadable_of_fallsInto (short : ∀ t, fits t → t.IsShort)
    (falls : FallsInto fits s Clause.all source tokens sections) :
    Query.IsReadable source sections := by
  have gives := falls.gives_of_mem
  refine ⟨fun body there what fails => ?_, fun body there => ?_, fun body there => ?_⟩
  · obtain ⟨c, -, writes⟩ := gives .where body there
    obtain ⟨t, member, kind, long, -⟩ := Query.condition?_eq_error fails
    exact long (short _ (writes.fits t member kind))
  · obtain ⟨-, -, t, rfl, -, -, fit⟩ := gives .limit body there
    exact fun u member => List.mem_singleton.mp member ▸ short _ fit
  · obtain ⟨-, -, t, rfl, -, -, fit⟩ := gives .offset body there
    exact fun u member => List.mem_singleton.mp member ▸ short _ fit

end

/-! ### The whole query -/

theorem reads_query (writable : IsWritable s) {w g columns t : Text} (spelt : w ∈ word .select)
    (gapG : g ∈ gap) (listed : columns ∈ separated (s.columns.map exactly))
    (written : t ∈ clauses fits s Clause.all) :
    Text.Reads (w ++ (g ++ (columns ++ t))) fun source tokens => ∃ select body rest sections,
      tokens = select :: (body ++ rest) ∧ select.kind = .keyword .select ∧ IsInner body ∧
        Query.ListsColumns source body s.columns ∧
        FallsInto fits s Clause.all source rest sections := by
  have inside := (reads_columns writable.columns_ne_nil writable.columns listed).append
    (fun after apart => clauses_isApart written apart) (reads_clauses writable written)
  refine ((reads_keyword spelt).gap gapG.1 gapG.2 inside).imp ?_
  intro source tokens read
  obtain ⟨_, _, rfl, ⟨select, rfl, kind⟩, body, rest, rfl, ⟨inner, columns⟩, sections,
    falls⟩ := read
  exact ⟨select, body, rest, sections, rfl, kind, inner, columns, falls⟩

theorem scan_of_scans {t b : Text} {tokens : List Token} (scans : Scans [] t b tokens)
    (blank : b.AllBlank) : ∃ stop, Token.scan (t ++ b) = tokens ++ [stop] ∧ stop.kind = .stop := by
  have ending := Token.scanFrom_blank (Position.start.after ([] ++ t)) blank []
  rw [List.append_nil] at ending
  unfold Scans at scans
  rw [ending] at scans
  exact ⟨_, scans, rfl⟩

theorem tokens?_of_scan {source : Text} {tokens : List Token} (scan : Token.scan source = tokens)
    (clean : ∀ t ∈ tokens, t.kind ≠ .stray) : Statement.tokens? source = .ok tokens := by
  have absent : Token.firstStray? tokens = none := by
    unfold Token.firstStray?
    rw [List.find?_eq_none]
    intro t member
    simpa using clean t member
  unfold Statement.tokens?
  simp only [scan, absent]

/-- What a text is whose tokens are a query that stands for a selection: it is read as the
selection, but for its numbers that cannot be read. -/
structure Writes (s : Selection) (source : Text) (first : Token) (rest columns : List Token)
    (sections : List Section) : Prop where
  scanned : Statement.tokens? source = .ok (first :: rest)
  select : first.kind = .keyword .select
  query : Query.IsQuery rest.dropLast columns sections
  read : Query.IsReadable source sections → Query.ofTokens? source rest = .ok s

theorem exists_writes (writable : IsWritable s) {w g columns t b : Text} (spelt : w ∈ word .select)
    (gapG : g ∈ gap) (listed : columns ∈ separated (s.columns.map exactly))
    (written : t ∈ clauses fits s Clause.all) (blank : b.AllBlank) :
    ∃ first rest columns' sections,
      Writes s (w ++ (g ++ (columns ++ t)) ++ b) first rest columns' sections ∧
        ((∀ t, fits t → t.IsShort) →
          Query.IsReadable (w ++ (g ++ (columns ++ t)) ++ b) sections) := by
  have apart : b.IsApart := by
    have edge := Text.IsApart.blanks blank .nil
    rwa [List.append_nil] at edge
  obtain ⟨_, scans, select, body, rest, sections, rfl, kind, inner, listsColumns, falls⟩ :=
    reads_query writable spelt gapG listed written [] b apart
  obtain ⟨stop, scan, ends⟩ := scan_of_scans scans blank
  rw [List.nil_append] at listsColumns falls
  have clean : ∀ t ∈ body ++ rest, t.kind ≠ .stop ∧ t.kind ≠ .keyword .join ∧ t.kind ≠ .stray :=
    List.forall_mem_append.mpr ⟨inner.clean, falls.clean⟩
  have free : ∀ t ∈ body ++ rest, t.kind ≠ .stop := fun t member => (clean t member).1
  have whole : ∀ t ∈ select :: (body ++ rest) ++ [stop], t.kind ≠ .stray := by
    intro t member
    rcases List.mem_append.mp member with member | member
    · rcases List.mem_cons.mp member with rfl | member
      · simp [kind]
      · exact (clean t member).2.2
    · obtain rfl := List.mem_singleton.mp member
      simp [ends]
  have ordered : InOrder none sections := by
    rw [inOrder_none_iff, falls.clauses]
    exact List.filter_sublist
  have cut : cutClauses none 0 (body ++ rest) = .ok (body, sections) :=
    cutClauses_of_layout (falls.layout body inner) free
      (eachOutside_of_forall fun t member => (clean t member).2.1) ordered
  refine ⟨select, body ++ rest ++ [stop], body, sections, ⟨tokens?_of_scan scan whole, kind, ?_,
    fun readable => ?_⟩, fun short => isReadable_of_fallsInto short falls⟩
  · rw [List.dropLast_concat]
    exact isQuery_of_fallsInto free cut listsColumns falls
  · exact Query.ofTokens?_of_reading ends free cut
      (reading_of_fallsInto listsColumns falls readable)

theorem Writes.read? {source : Text} {first : Token} {rest columns : List Token}
    {sections : List Section} (writes : Writes s source first rest columns sections)
    (readable : Query.IsReadable source sections) : Statement.read? source = .ok (.select s) := by
  refine bind_ok_iff.mpr ⟨_, writes.scanned, ?_⟩
  rw [Statement.request?_select writes.select, writes.read readable]
  rfl

theorem Writes.exists_overlong {source : Text} {first : Token} {rest columns : List Token}
    {sections : List Section} (writes : Writes s source first rest columns sections)
    (unreadable : ¬Query.IsReadable source sections) :
    ∃ what, Statement.read? source = .error (.overlong what) := by
  obtain ⟨inner, stop, rfl, ends, free⟩ :=
    Query.tokens_of_scan writes.scanned (by simp [writes.select])
  have query := writes.query
  rw [List.dropLast_concat] at query
  cases result : Query.ofTokens? source (inner ++ [stop]) with
  | ok selection =>
    obtain ⟨columns', sections', cut, reading⟩ := (Query.ofTokens?_eq_ok_iff ends free).mp result
    have same := cut.symm.trans (cutClauses_of_layout query.layout free query.joinFree
      (inOrder_none_iff.mpr query.ordered))
    cases same
    exact absurd (Query.isReadable_of_reading reading) unreadable
  | error fault =>
    obtain ⟨what, rfl⟩ := Query.overlong_of_isQuery ends free query result
    exact ⟨what, Statement.read?_eq_overlong_iff.mpr
      ⟨first, _, writes.scanned, writes.select, result⟩⟩

theorem head?_of_gap {g : Text} (gapG : g ∈ gap) (t : Text) :
    ∀ c ∈ (g ++ t).head?, c.isBlank = true := by
  obtain ⟨c, g, rfl⟩ := List.exists_cons_of_ne_nil gapG.2
  rintro d ⟨⟩
  exact gapG.1 c List.mem_cons_self

theorem leadingWord_word {k : Keyword} {w g : Text} (spelt : w ∈ word k) (gapG : g ∈ gap)
    (t : Text) : Statement.leadingWord (w ++ (g ++ t)) = k.spelling := by
  have each : Keyword.all.all (fun k => Text.leadingName k.spelling == k.spelling) = true := by
    decide +kernel
  obtain ⟨cs, rfl, same⟩ := spelt
  have letters := Keyword.letters_of_isSpelling same
  unfold Statement.leadingWord
  rw [Text.leadingName_lower_append_blank _ (head?_of_gap gapG t),
    Text.lower_ascii fun ch member => (letters ch member).1, same]
  exact beq_iff_eq.mp (List.all_eq_true.mp each k k.mem_all)

theorem leadingWord_query {w g t : Text} (spelt : w ∈ word .select) (gapG : g ∈ gap) :
    Statement.leadingWord (w ++ (g ++ t) ++ [.char ';']) ∈ Statement.leadingWords := by
  rw [List.append_assoc, List.append_assoc, leadingWord_word spelt gapG]
  decide

theorem parse_framed {lead w g t e : Text} (before : lead ∈ blanks) (spelt : w ∈ word .select)
    (gapG : g ∈ gap) (after : e ∈ blanks) :
    Text.trim (lead ++ (w ++ (g ++ t) ++ [.char ';'] ++ e)) = w ++ (g ++ t) ++ [.char ';'] ∧
      Statement.parse (lead ++ (w ++ (g ++ t) ++ [.char ';'] ++ e)) =
        (fun request => some ⟨w ++ (g ++ t) ++ [.char ';'], request⟩) <$>
          Statement.parseEnded (w ++ (g ++ t) ++ [.char ';']) := by
  have leading := leadingWord_query (t := t) spelt gapG
  exact ⟨Text.trim_framed before (Statement.isTrimmed_of_leading leading) after,
    Statement.parse_of_leading before after leading⟩

theorem parseEnded_of_read? {body : Text} {request : Request}
    (read : Statement.read? body = .ok request) :
    Statement.parseEnded (body ++ [.char ';']) = .ok request := by
  unfold Statement.parseEnded
  rw [List.dropLast_concat, read]

theorem exists_writes_of_rendering (writable : IsWritable s) {text : Text}
    (written : text ∈ rendering fits s) :
    ∃ body first rest columns sections, text.trim = body ++ [.char ';'] ∧
      Writes s body first rest columns sections ∧
      ((∀ t, fits t → t.IsShort) → Query.IsReadable body sections) ∧
      Statement.parse text = (fun request => some ⟨text.trim, request⟩) <$>
        Statement.parseEnded (body ++ [.char ';']) := by
  obtain ⟨_, ⟨_, ⟨_, ⟨_, ⟨_, ⟨_, ⟨lead, blankLead, w, spelt, rfl⟩, g, gapG, rfl⟩, columns, listed,
    rfl⟩, t, clausesIn, rfl⟩, b, blankB, rfl⟩, _, rfl, rfl⟩, e, blankE, rfl⟩ := written
  obtain ⟨first, rest, columns', sections, writes, readable⟩ :=
    exists_writes writable spelt gapG listed clausesIn blankB
  obtain ⟨trimmed, parsed⟩ := parse_framed (t := columns ++ t ++ b) blankLead spelt gapG blankE
  have body : w ++ (g ++ (columns ++ t)) ++ b = w ++ (g ++ (columns ++ t ++ b)) := by simp
  have whole : lead ++ (w ++ (g ++ (columns ++ t ++ b)) ++ [.char ';'] ++ e) =
      lead ++ w ++ g ++ columns ++ t ++ b ++ Text.ofString ";" ++ e := by
    simp [Text.ofString]
  rw [whole] at trimmed parsed
  rw [body] at writes readable
  beta_reduce
  rw [trimmed]
  exact ⟨_, first, rest, columns', sections, rfl, writes, readable, parsed⟩

theorem parse_of_rendering (writable : IsWritable s) {text : Text}
    (written : text ∈ rendering Text.IsShort s) :
    Statement.parse text = .ok (some ⟨text.trim, .select s⟩) := by
  obtain ⟨body, first, rest, columns, sections, -, writes, readable, parsed⟩ :=
    exists_writes_of_rendering writable written
  rw [parsed, parseEnded_of_read? (writes.read? (readable fun _ => id))]
  rfl

/-- A selection can be written, and each of its texts whose numerals are short enough is read as it
was. Any other text of it is one of a query too, and is read as it was exactly if the numbers of
this query can be read. Where they cannot, there is no answer to the input. -/
theorem parse_rendering (writable : IsWritable s) :
    (∃ text, text ∈ rendering (fun _ => True) s) ∧
    (∀ text : Text, text ∈ rendering Text.IsShort s →
      Statement.parse text = .ok (some ⟨text.trim, .select s⟩)) ∧
    ∀ text : Text, text ∈ rendering (fun _ => True) s → ∃ body first rest columns sections,
      text.trim = body ++ [.char ';'] ∧ Statement.tokens? body = .ok (first :: rest) ∧
        first.kind = .keyword .select ∧ Query.IsQuery rest.dropLast columns sections ∧
        (Statement.parse text = .ok (some ⟨text.trim, .select s⟩) ↔
          Query.IsReadable body sections) ∧
        (¬Query.IsReadable body sections → ∃ what, Statement.parse text = .error what) := by
  refine ⟨exists_rendering writable, fun text => parse_of_rendering writable,
    fun text written => ?_⟩
  obtain ⟨body, first, rest, columns, sections, trimmed, writes, -, parsed⟩ :=
    exists_writes_of_rendering writable written
  have unread : ¬Query.IsReadable body sections →
      ∃ what, Statement.parse text = .error what := by
    intro unreadable
    obtain ⟨what, fails⟩ := writes.exists_overlong unreadable
    refine ⟨what, parsed.trans (map_error_iff.mpr (Statement.parseEnded_eq_error.mpr ?_))⟩
    rwa [List.dropLast_concat]
  refine ⟨body, first, rest, columns, sections, trimmed, writes.scanned, writes.select,
    writes.query, ⟨fun read => ?_, fun readable => ?_⟩, unread⟩
  · by_contra unreadable
    obtain ⟨what, fails⟩ := unread unreadable
    cases read.symm.trans fails
  · rw [parsed, parseEnded_of_read? (writes.read? readable)]
    rfl

theorem mem_gap {t : Text} (blank : t.all CodePoint.isBlank = true) (filled : t ≠ []) : t ∈ gap :=
  ⟨List.all_eq_true.mp blank, filled⟩

/-- A query whose literal holds a quote, a semicolon and a comment. -/
theorem parse_rendering_quoted :
    Statement.parse " Select x.*, a\nfrom t x Where a <> 'it\\'s; --' ORDER  by a;" =
      .ok (some ⟨Text.trim " Select x.*, a\nfrom t x Where a <> 'it\\'s; --' ORDER  by a;",
        .select ⟨["x.*", "a"], "t", some "x", some ⟨"a", .ne, .text "it's; --"⟩, [],
          [⟨"a", .ascending⟩], none, none⟩⟩) := by
  let s : Selection := ⟨["x.*", "a"], "t", some "x", some ⟨"a", .ne, .text "it's; --"⟩, [],
    [⟨"a", .ascending⟩], none, none⟩
  have name : IsName "a" ∧ IsName "t" ∧ IsName "x" := by decide +kernel
  obtain ⟨a, t, x⟩ := name
  refine (parse_rendering (s := s) ⟨by simp [s], ?_, t, ?_, ?_, by simp [s], ?_⟩).2.1 _ ?_
  · rintro column member
    rcases List.mem_pair.mp member with rfl | rfl
    · exact .allOf x
    · exact .reference (.plain a)
  · rintro _ ⟨⟩
    exact x
  · rintro _ ⟨⟩
    exact ⟨.plain a, by simp, .text (by decide)⟩
  · intro item member
    obtain rfl := List.mem_singleton.mp member
    exact .plain a
  have space : [.char ' '] ∈ gap := mem_gap (by decide) (by decide)
  have newline : [.char '\n'] ∈ gap := mem_gap (by decide) (by decide)
  have wide : [.char ' ', .char ' '] ∈ gap := mem_gap (by decide) (by decide)
  have columns : Text.ofString "x.*, a" ∈ separated [exactly "x.*", exactly "a"] :=
    ⟨_, ⟨"x.*", rfl, _, ⟨_, ⟨[], nil_mem_blanks, ",", rfl, rfl⟩, " ", space.1, rfl⟩, rfl⟩, "a", rfl,
      rfl⟩
  have table : Text.ofString "t x" ∈ source "t" (some "x") :=
    ⟨_, ⟨_, ⟨"t", rfl, " ", space, rfl⟩, [], .inl rfl, rfl⟩, "x", rfl, rfl⟩
  have filter : Text.ofString "a <> 'it\\'s; --'" ∈
      comparison Text.IsShort ⟨"a", .ne, .text "it's; --"⟩ :=
    ⟨_, ⟨_, ⟨_, ⟨"a", rfl, " ", space, rfl⟩, "<>", .inr rfl, rfl⟩, " ", space, rfl⟩,
      "'it\\'s; --'", .inl rfl, rfl⟩
  have opensTable : Text.ofString "from" ∈ opening .from :=
    ⟨"from", spelling_mem_word .from, [], rfl, rfl⟩
  have opensFilter : Text.ofString "Where" ∈ opening .where :=
    ⟨"Where", ⟨"Where".toList, rfl, by decide⟩, [], rfl, rfl⟩
  have opensOrder : Text.ofString "ORDER  by" ∈ opening .order :=
    ⟨"ORDER", ⟨"ORDER".toList, rfl, by decide⟩, "  by",
      ⟨"  ", wide, "by", spelling_mem_word .by, rfl⟩, rfl⟩
  have sorted : Text.ofString "a" ∈ separated [sortItem ⟨"a", .ascending⟩] :=
    ⟨"a", rfl, [], .inl rfl, rfl⟩
  have order := mem_clauses_cons (s := s) (by rfl) space opensOrder space sorted
    (show [] ∈ clauses Text.IsShort s [.limit, .offset] from rfl)
  have filtered := mem_clauses_cons (s := s) (by rfl) space opensFilter space filter
    (show _ ∈ clauses Text.IsShort s [.group, .order, .limit, .offset] from order)
  have whole := mem_clauses_cons (s := s) (by rfl) newline opensTable space table filtered
  have written := mem_rendering space.1 ⟨"Select".toList, rfl, by decide⟩ space columns whole
    nil_mem_blanks nil_mem_blanks
  exact written

def overlongSelection : Selection where
  columns := ["a"]
  table := "t"
  tableAlias := none
  condition := none
  groupBy := []
  orderBy := []
  limit := some (Text.natural (List.replicate (Text.digitLimit + 1) (.char '1')))
  offset := none

/-- A selection whose limit has too many digits is not read from its text. -/
theorem parse_rendering_overlong :
    IsWritable overlongSelection ∧
      Query.overlongQuery ++ [.char ';'] ∈ rendering (fun _ => True) overlongSelection ∧
      Statement.parse (Query.overlongQuery ++ [.char ';']) = .error (.numeral 4301) := by
  let digits : Text := List.replicate (Text.digitLimit + 1) (.char '1')
  have name : IsName "a" ∧ IsName "t" := by decide +kernel
  obtain ⟨a, t⟩ := name
  refine ⟨⟨by simp [overlongSelection], ?_, t, by simp [overlongSelection],
    by simp [overlongSelection], by simp [overlongSelection], by simp [overlongSelection]⟩, ?_,
    Statement.parse_overlongQuery⟩
  · intro column member
    obtain rfl := List.mem_singleton.mp member
    exact .reference (.plain a)
  have space : [.char ' '] ∈ gap := mem_gap (by decide) (by decide)
  have newline : [.char '\n'] ∈ gap := mem_gap (by decide) (by decide)
  have number : digits ∈ numeral (fun _ => True) (Text.natural digits) :=
    ⟨by simp [digits], fun c member => by rw [List.eq_of_mem_replicate member]; decide, rfl, trivial⟩
  have opensTable : Text.ofString "from" ∈ opening .from :=
    ⟨"from", spelling_mem_word .from, [], rfl, rfl⟩
  have opensLimit : Text.ofString "limit" ∈ opening .limit :=
    ⟨"limit", spelling_mem_word .limit, [], rfl, rfl⟩
  have limit := mem_clauses_cons (s := overlongSelection) (by rfl) newline opensLimit space number
    (show [] ∈ clauses (fun _ => True) overlongSelection [.offset] from rfl)
  have whole := mem_clauses_cons (s := overlongSelection) (by rfl) space opensTable space
    (show Text.ofString "t" ∈ source "t" none from rfl)
    (show _ ∈ clauses (fun _ => True) overlongSelection [.where, .group, .order, .limit, .offset]
      from limit)
  have written := mem_rendering nil_mem_blanks (spelling_mem_word .select) space
    (show Text.ofString "a" ∈ separated [exactly "a"] from rfl) whole nil_mem_blanks nil_mem_blanks
  simpa [Query.overlongQuery, Text.ofString, Keyword.spelling, digits] using written

end SqlConsole.Rendering
