import SqlConsole.Proofs.Query.Grammar

/-!
# Tokens that are blamed

A fault in a run of tokens is at a token after which nothing can make them right, or at the token
that follows them (`Blames`). The readers of a query blame tokens so, but for a number that is too
long, which is not blamed, and a direction without a column, where the first token of the clause is
(`sortItems?_blames`).
-/

namespace SqlConsole

/-- Whether a fault is one at a token. -/
def Fault.IsAt (fault : Fault) (t : Token) : Prop :=
  fault = .atToken t ∨ fault = .joinUnsupported t.value

/-- What a fault in tokens that should have a property blames: a token after which none can give
them the property, or the one that follows them where they lack it. -/
inductive Blames (good : List Token → Prop) (follow : Token) (tokens : List Token)
    (fault : Fault) : Prop
  | inside (front behind : List Token) {t : Token} (split : tokens = front ++ t :: behind)
      (blamed : fault.IsAt t) (stuck : ∀ more, ¬good (front ++ t :: more))
  | behind (blamed : fault = .atToken follow) (short : ¬good tokens)

namespace Blames

variable {good good' : List Token → Prop} {follow t : Token} {tokens : List Token} {fault : Fault}

theorem imp (weaker : ∀ tokens, good' tokens → good tokens)
    (blames : Blames good follow tokens fault) : Blames good' follow tokens fault := by
  cases blames with
  | inside front behind split blamed stuck =>
    exact .inside front behind split blamed fun more present => stuck more (weaker _ present)
  | behind blamed short => exact .behind blamed fun present => short (weaker _ present)

theorem append (lead : List Token) (rest : ∀ more, good (lead ++ more) → good' more)
    (blames : Blames good' follow tokens fault) : Blames good follow (lead ++ tokens) fault := by
  cases blames with
  | @inside front behind t split blamed stuck =>
    refine .inside (lead ++ front) behind (by rw [split, List.append_assoc]) blamed ?_
    intro more present
    rw [List.append_assoc] at present
    exact stuck more (rest _ present)
  | behind blamed short => exact .behind blamed fun present => short (rest _ present)

theorem first {behind : List Token} (stuck : ∀ more, ¬good (t :: more)) :
    Blames good follow (t :: behind) (.atToken t) :=
  .inside [] behind rfl (.inl rfl) stuck

end Blames

/-! ### Items -/

theorem cutItemsFrom_blames {follow : Token} {depth : Int} {item tokens : List Token}
    {fault : Fault} (refused : cutItemsFrom follow depth item tokens = .error fault) :
    Blames (fun tokens => ∃ follow items, cutItemsFrom follow depth item tokens = .ok items)
      follow tokens fault := by
  fun_induction cutItemsFrom follow depth item tokens with
  | case1 depth =>
    cases refused
    exact .behind rfl (by simp [cutItemsFrom])
  | case2 depth item present => cases refused
  | case3 depth t ts separates =>
    cases refused
    exact .first fun more => by simp [cutItemsFrom, separates]
  | case4 depth item t ts separates present ih =>
    rcases bind_error_iff.mp refused with refused | ⟨_, _, ⟨⟩⟩
    refine (ih refused).append [t] fun more read => ?_
    obtain ⟨follow, items, read⟩ := read
    rw [List.singleton_append, cutItemsFrom, if_pos separates, if_neg present] at read
    obtain ⟨others, read, -⟩ := bind_ok_iff.mp read
    exact ⟨follow, others, read⟩
  | case5 depth item t ts inside ih =>
    refine (ih refused).append [t] fun more read => ?_
    obtain ⟨follow, items, read⟩ := read
    rw [List.singleton_append, cutItemsFrom, if_neg inside] at read
    exact ⟨follow, items, read⟩

theorem cutItems_blames {follow : Token} {tokens : List Token} {fault : Fault}
    (refused : cutItems follow tokens = .error fault) :
    Blames (fun tokens => ∃ items, Items tokens items) follow tokens fault := by
  refine (cutItemsFrom_blames refused).imp fun tokens split => ?_
  obtain ⟨items, split⟩ := split
  exact ⟨follow, items, cutItems_eq_ok_iff.mpr split⟩

/-! ### Clauses -/

theorem clause_of_cutClauses {last : Option Clause} {t : Token} {ts before : List Token}
    {clause : Clause} {sections : List Section} (opens : Clause.ofKind? t.kind = some clause)
    (cut : cutClauses last 0 (t :: ts) = .ok (before, sections)) :
    clause.follows last = true ∧ before = [] ∧ ∃ joined rest body late, ts = joined ++ rest ∧
      joined.map Token.kind = (if clause.takesBy then [.keyword .by] else []) ∧
      cutClauses (some clause) 0 rest = .ok (body, late) ∧
      sections = ⟨clause, t, body⟩ :: late := by
  have inner : t.kind ≠ .stop := by
    rintro stop
    simp [stop, Clause.ofKind?] at opens
  have joinless : t.kind ≠ .keyword .join := by
    rintro join
    simp [join, Clause.ofKind?] at opens
  rw [cutClauses, if_neg inner, if_neg fun join => joinless join.2] at cut
  simp only [if_true, opens] at cut
  split at cut
  · rename_i takes
    split at cut
    · cases cut
    · rename_i u us
      split at cut
      · cases cut
      split at cut
      · cases cut
      rename_i by_ follows
      obtain ⟨⟨body, late⟩, found, result⟩ := bind_ok_iff.mp cut
      cases result
      exact ⟨by simpa using follows, rfl, [u], us, body, late, rfl, by simpa [takes] using by_,
        found, rfl⟩
  · rename_i bare
    split at cut
    · cases cut
    rename_i follows
    obtain ⟨⟨body, late⟩, found, result⟩ := bind_ok_iff.mp cut
    cases result
    exact ⟨by simpa using follows, rfl, [], ts, body, late, rfl, by simp [bare], found, rfl⟩

theorem cutClauses_blames {stop : Token} {last : Option Clause} {d : Int} {tokens : List Token}
    {fault : Fault} (ends : stop.kind = .stop)
    (refused : cutClauses last d tokens = .error fault) :
    Blames (fun tokens => ∃ cut, cutClauses last d tokens = .ok cut) stop tokens fault := by
  fun_induction cutClauses last d tokens with
  | case1 | case2 => cases refused
  | case3 last d t ts inner join =>
    cases refused
    exact .inside [] _ rfl (.inr rfl) fun more => by simp [cutClauses, join]
  | case4 last d t ts inner joinless closed ih =>
    rcases bind_error_iff.mp refused with refused | ⟨_, _, ⟨⟩⟩
    refine (ih refused).append [t] fun more found => ?_
    obtain ⟨cut, found⟩ := found
    rw [List.singleton_append, cutClauses, if_neg inner, if_neg joinless, closed] at found
    obtain ⟨rest, found, -⟩ := bind_ok_iff.mp found
    exact ⟨rest, found⟩
  | case5 last d t inner joinless clause opens takes =>
    cases refused
    refine .behind (by rw [Fault.atToken, if_pos ends]) ?_
    simp [cutClauses, inner, joinless, opens, takes]
  | case6 last d t inner joinless clause opens takes u us without =>
    cases refused
    refine .inside [t] _ rfl (.inl rfl) fun more => ?_
    simp [cutClauses, inner, joinless, opens, takes, without]
  | case7 last d t inner joinless clause opens takes u us by_ late
  | case9 last d t ts inner joinless clause opens bare late =>
    cases refused
    obtain ⟨rfl, opens⟩ := opens_of_if opens
    refine .first fun more found => ?_
    obtain ⟨cut, found⟩ := found
    have follows := (clause_of_cutClauses opens found).1
    simp [follows] at late
  | case8 last d t inner joinless clause opens takes u us by_ follows ih =>
    rcases bind_error_iff.mp refused with refused | ⟨_, _, ⟨⟩⟩
    obtain ⟨rfl, opens⟩ := opens_of_if opens
    refine (ih refused).append [t, u] fun more found => ?_
    obtain ⟨cut, found⟩ := found
    obtain ⟨-, -, joined, rest, body, late, same, joins, found, -⟩ :=
      clause_of_cutClauses opens found
    rw [if_pos takes] at joins
    obtain ⟨_, rfl, -⟩ := List.map_eq_singleton_iff.mp joins
    obtain ⟨-, rfl⟩ := List.cons.inj same
    exact ⟨_, found⟩
  | case10 last d t ts inner joinless clause opens bare follows ih =>
    rcases bind_error_iff.mp refused with refused | ⟨_, _, ⟨⟩⟩
    obtain ⟨rfl, opens⟩ := opens_of_if opens
    refine (ih refused).append [t] fun more found => ?_
    obtain ⟨cut, found⟩ := found
    obtain ⟨-, -, joined, rest, body, late, same, joins, found, -⟩ :=
      clause_of_cutClauses opens found
    rw [if_neg bare] at joins
    obtain rfl := List.map_eq_nil_iff.mp joins
    obtain rfl : more = rest := same
    exact ⟨_, found⟩

namespace Query

variable {source : Text} {follow : Token} {body : List Token} {fault : Fault}

/-! ### Bodies of clauses -/

def IsBody : Option Clause → List Token → Prop
  | none, body => ∃ items, Items body items
  | some .from, body => ∃ table tableAlias, IsSource body table tableAlias
  | some .where, body => body ≠ []
  | some .group, body => ∃ items, Items body items
  | some .order, body => ∃ items, Items body items ∧ ∀ item ∈ items, ¬IsLoneDirection item
  | some .limit, body => ∃ t, body = [t] ∧ t.kind = .integer
  | some .offset, body => ∃ t, body = [t] ∧ t.kind = .integer

def HasLoneDirection (body : List Token) : Prop :=
  ∃ items, Items body items ∧ ∃ item ∈ items, IsLoneDirection item

theorem columns?_blames (refused : columns? source follow body = .error fault) :
    Blames (fun body => ∃ items, Items body items) follow body fault := by
  rcases bind_error_iff.mp refused with refused | ⟨_, _, ⟨⟩⟩
  exact cutItems_blames refused

theorem named_eq_error {t : Token} {ts : List Token}
    (refused : tableAlias?.named t ts = .error fault) :
    (t.kind ≠ .identifier ∧ fault = .atToken t) ∨
      ∃ u us, ts = u :: us ∧ fault = .atToken u := by
  unfold tableAlias?.named at refused
  split at refused
  · rename_i other
    cases refused
    exact .inl ⟨other, rfl⟩
  · cases ts with
    | nil => cases refused
    | cons u us =>
      cases refused
      exact .inr ⟨u, us, rfl, rfl⟩

theorem tableAlias?_blames (t : Token) (refused : tableAlias? follow body = .error fault) :
    Blames (fun body => IsBody (some .from) (t :: body)) follow body fault := by
  cases body with
  | nil => cases refused
  | cons u us =>
    simp only [tableAlias?] at refused
    split at refused
    · rename_i as
      cases us with
      | nil =>
        cases refused
        refine .behind rfl ?_
        rintro ⟨_, _, written⟩
        cases written
        simp_all
      | cons v vs =>
        rcases named_eq_error refused with ⟨other, rfl⟩ | ⟨w, ws, rfl, rfl⟩
        · refine .inside [u] _ rfl (.inl rfl) fun more => ?_
          rintro ⟨_, _, written⟩
          cases written
          exact other ‹_›
        · exact .inside [u, v] _ rfl (.inl rfl) (by rintro more ⟨_, _, ⟨⟩⟩)
    · rename_i plain
      rcases named_eq_error refused with ⟨other, rfl⟩ | ⟨v, vs, rfl, rfl⟩
      · refine .first fun more => ?_
        rintro ⟨_, _, written⟩
        cases written with
        | aliased _ name => exact other name
        | worded _ as _ => exact plain as
      · refine .inside [u] _ rfl (.inl rfl) fun more => ?_
        rintro ⟨_, _, written⟩
        cases written
        exact plain ‹_›

theorem kind_of_mapError {α : Type} {x : Except Overlong α}
    (refused : x.mapError Fault.overlong = .error fault) : fault.kind = .uncaught := by
  cases x <;> cases refused
  rfl

theorem source?_blames (refused : source? follow body = .error fault) :
    Blames (IsBody (some .from)) follow body fault := by
  cases body with
  | nil =>
    cases refused
    exact .behind rfl (by rintro ⟨_, _, ⟨⟩⟩)
  | cons t ts =>
    rw [source?] at refused
    split at refused
    · rename_i other
      cases refused
      refine .first fun more => ?_
      rintro ⟨_, _, written⟩
      cases written <;> exact other ‹_›
    · rcases bind_error_iff.mp refused with refused | ⟨_, _, ⟨⟩⟩
      exact (tableAlias?_blames t refused).append [t] fun _ => id

theorem count?_blames (caught : fault.kind ≠ .uncaught)
    (refused : count? follow body = .error fault) :
    Blames (fun body => ∃ t, body = [t] ∧ t.kind = .integer) follow body fault := by
  cases body with
  | nil =>
    cases refused
    exact .behind rfl (by simp)
  | cons t ts =>
    simp only [count?] at refused
    split at refused
    · rename_i other
      cases refused
      refine .first fun more => ?_
      rintro ⟨_, ⟨⟩, number⟩
      exact other number
    · cases ts with
      | nil => exact absurd (kind_of_mapError refused) caught
      | cons u us =>
        cases refused
        exact .inside [t] _ rfl (.inl rfl) (by simp)

theorem filter?_blames (caught : fault.kind ≠ .uncaught)
    (refused : filter? source follow body = .error fault) :
    Blames (IsBody (some .where)) follow body fault := by
  unfold filter? at refused
  split at refused
  · rename_i empty
    cases refused
    exact .behind rfl (not_not.mpr empty)
  · cases found : condition? source body with
    | none =>
      rw [found] at refused
      cases refused
    | some result =>
      rw [found] at refused
      exact absurd (kind_of_mapError (map_error_iff.mp refused)) caught

theorem loneDirection_of_sortItem? {item : List Token} (present : item ≠ [])
    (refused : sortItem? source body item = .error fault) :
    IsLoneDirection item ∧ ∃ t behind, body = t :: behind ∧ fault = .atToken t := by
  obtain ⟨column, u, rfl⟩ := (List.eq_nil_or_concat' item).resolve_left present
  unfold sortItem? at refused
  by_cases wordless : ∀ direction, u.kind ≠ directionWord direction
  · rw [direction?_plain wordless] at refused
    cases column <;> cases refused
  · simp only [ne_eq, not_forall, not_not] at wordless
    obtain ⟨direction, word⟩ := wordless
    rw [direction?_worded word] at refused
    cases column with
    | cons => cases refused
    | nil =>
      cases body with
      | nil => cases refused
      | cons t behind =>
        cases refused
        exact ⟨⟨u, direction, rfl, word⟩, t, behind, rfl, rfl⟩

theorem sortItems?_blames (refused : sortItems? source follow body = .error fault) :
    Blames (IsBody (some .order)) follow body fault ∨
      HasLoneDirection body ∧ ∃ t behind, body = t :: behind ∧ fault = .atToken t := by
  rcases bind_error_iff.mp refused with refused | ⟨items, split, refused⟩
  · refine .inl ((cutItems_blames refused).imp fun body sorted => ?_)
    obtain ⟨items, split, -⟩ := sorted
    exact ⟨items, split⟩
  · -- The items are well apart, so what is at fault is one of them.
    have split := cutItems_eq_ok_iff.mp split
    obtain ⟨item, member, refused⟩ := exists_mem_of_mapM_error refused
    obtain ⟨lone, first⟩ := loneDirection_of_sortItem? (split.present item member) refused
    exact .inr ⟨⟨items, split, item, member, lone⟩, first⟩

end Query

end SqlConsole
