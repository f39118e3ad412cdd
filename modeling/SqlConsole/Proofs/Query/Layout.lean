import SqlConsole.Statement.Clause
import SqlConsole.Proofs.Result
import Mathlib.Data.List.TakeWhile

/-!
# Layout of a query

How the tokens of a query fall into clauses is said of whole runs of tokens (`Layout`). Cutting them
token by token finds these parts (`layout_of_cutClauses`) and no others (`cutClauses_of_layout`).
-/

namespace SqlConsole

/-! ### Depth of parentheses -/

/-- The depth of parentheses after a run of tokens: the opening ones less the closing ones. -/
def Token.depth (tokens : List Token) : Int :=
  tokens.countP (·.kind = .openParen) - tokens.countP (·.kind = .closeParen)

@[simp]
theorem Token.depth_nil : depth [] = 0 := rfl

theorem Token.depth_cons (t : Token) (ts : List Token) :
    depth (t :: ts) = t.depthChange + depth ts := by
  unfold depth depthChange
  simp only [List.countP_cons, decide_eq_true_eq]
  by_cases opening : t.kind = .openParen
  · simp [opening]
    omega
  · by_cases closing : t.kind = .closeParen
    · simp [closing]
      omega
    · simp [opening, closing]

theorem Token.depth_append (a b : List Token) : depth (a ++ b) = depth a + depth b := by
  unfold depth
  simp only [List.countP_append]
  omega

/-- Whether each token outside parentheses, from a depth on, has a property. -/
def Token.EachOutside (depth : Int) (p : Token → Prop) (tokens : List Token) : Prop :=
  ∀ before t after, tokens = before ++ t :: after → depth + Token.depth before = 0 → p t

namespace Token

variable {p : Token → Prop} {d : Int}

theorem eachOutside_nil : EachOutside d p [] := by
  intro before t after same
  simp at same

theorem eachOutside_cons {t : Token} {ts : List Token} :
    EachOutside d p (t :: ts) ↔ (d = 0 → p t) ∧ EachOutside (d + t.depthChange) p ts := by
  constructor
  · intro each
    refine ⟨fun outside => each [] t ts rfl (by simpa using outside), ?_⟩
    rintro before u after rfl outside
    exact each (t :: before) u after rfl (by rw [depth_cons]; omega)
  · rintro ⟨first, others⟩ before u after same outside
    cases before with
    | nil =>
      obtain ⟨rfl, -⟩ := List.cons.inj same
      exact first (by simpa using outside)
    | cons v before =>
      obtain ⟨rfl, tail⟩ := List.cons.inj same
      exact others before u after tail (by rw [depth_cons] at outside; omega)

theorem eachOutside_append {a b : List Token} :
    EachOutside d p (a ++ b) ↔ EachOutside d p a ∧ EachOutside (d + depth a) p b := by
  induction a generalizing d with
  | nil => simp [eachOutside_nil]
  | cons t a ih =>
    rw [List.cons_append, eachOutside_cons, eachOutside_cons, ih, depth_cons, and_assoc,
      Int.add_assoc]

end Token

open Token (EachOutside)

/-! ### Clauses -/

def ClauseFree (depth : Int) (tokens : List Token) : Prop :=
  EachOutside depth (fun t => Clause.ofKind? t.kind = none) tokens

/-- How the tokens of a query, from a depth of parentheses on, fall into those before the first
clause and its clauses: each word that starts a clause outside parentheses does so, with the word
that must follow it, and no other token of a body does. -/
inductive Layout : Int → List Token → List Token → List Section → Prop
  | last {d : Int} {body : List Token} (free : ClauseFree d body) : Layout d body body []
  | clause {d : Int} {before joined rest body : List Token} {t : Token} {clause : Clause}
      {sections : List Section} (free : ClauseFree d before) (outside : d + Token.depth before = 0)
      (opens : Clause.ofKind? t.kind = some clause)
      (joins : joined.map Token.kind = if clause.takesBy then [.keyword .by] else [])
      (others : Layout 0 rest body sections) :
      Layout d (before ++ t :: (joined ++ rest)) before (⟨clause, t, body⟩ :: sections)

/-- Whether clauses come in their order, each at most once and all after a given one. -/
def InOrder (last : Option Clause) : List Section → Prop
  | [] => True
  | s :: rest => s.clause.follows last = true ∧ InOrder (some s.clause) rest

theorem depthChange_of_clause {t : Token} {clause : Clause}
    (opens : Clause.ofKind? t.kind = some clause) : t.depthChange = 0 := by
  unfold Token.depthChange
  split
  · simp_all [Clause.ofKind?]
  · simp_all [Clause.ofKind?]
  · rfl

theorem depth_joined {clause : Clause} {joined : List Token}
    (joins : joined.map Token.kind = if clause.takesBy then [.keyword .by] else []) :
    Token.depth joined = 0 := by
  split at joins
  · obtain ⟨u, rfl, by_⟩ := List.map_eq_singleton_iff.mp joins
    simp [Token.depth_cons, Token.depthChange, by_]
  · obtain rfl := List.map_eq_nil_iff.mp joins
    rfl

theorem Layout.cons {d : Int} {t : Token} {tokens before : List Token} {sections : List Section}
    (closed : d = 0 → Clause.ofKind? t.kind = none)
    (layout : Layout (d + t.depthChange) tokens before sections) :
    Layout d (t :: tokens) (t :: before) sections := by
  cases layout with
  | last free => exact .last (Token.eachOutside_cons.mpr ⟨closed, free⟩)
  | clause free outside opens joins others =>
    rw [← List.cons_append]
    exact .clause (Token.eachOutside_cons.mpr ⟨closed, free⟩)
      (by rw [Token.depth_cons]; omega) opens joins others

/-! ### Cutting at clauses -/

section Cutting

variable {last : Option Clause} {d : Int} {t : Token} {tokens before : List Token}
  {sections : List Section}

theorem cutClauses_other (inner : t.kind ≠ .stop)
    (joinFree : d = 0 → t.kind ≠ .keyword .join) (closed : d = 0 → Clause.ofKind? t.kind = none) :
    cutClauses last d (t :: tokens) =
      (fun cut => (t :: cut.1, cut.2)) <$> cutClauses last (d + t.depthChange) tokens := by
  have joinless : ¬(d = 0 ∧ t.kind = .keyword .join) := fun h => joinFree h.1 h.2
  have plain : (if d = 0 then Clause.ofKind? t.kind else none) = none := by
    split
    · exact closed ‹_›
    · rfl
  rw [cutClauses, if_neg inner, if_neg joinless]
  simp only [plain]
  cases cutClauses last (d + t.depthChange) tokens <;> rfl

theorem cutClauses_clause {clause : Clause} {joined rest : List Token}
    (opens : Clause.ofKind? t.kind = some clause)
    (joins : joined.map Token.kind = if clause.takesBy then [.keyword .by] else [])
    (follows : clause.follows last = true) :
    cutClauses last 0 (t :: (joined ++ rest)) =
      (fun cut => ([], ⟨clause, t, cut.1⟩ :: cut.2)) <$> cutClauses (some clause) 0 rest := by
  have inner : t.kind ≠ .stop := by
    intro stop
    rw [stop] at opens
    exact absurd opens (by simp [Clause.ofKind?])
  have joinless : ¬((0 : Int) = 0 ∧ t.kind = .keyword .join) := by
    rintro ⟨-, join⟩
    rw [join] at opens
    exact absurd opens (by simp [Clause.ofKind?])
  rw [cutClauses, if_neg inner, if_neg joinless]
  simp only [if_true, opens, follows]
  split
  · rename_i takes
    rw [if_pos takes] at joins
    obtain ⟨u, rfl, by_⟩ := List.map_eq_singleton_iff.mp joins
    simp only [List.cons_append, List.nil_append, by_]
    cases cutClauses (some clause) 0 rest <;> rfl
  · rename_i bare
    rw [if_neg bare] at joins
    obtain rfl := List.map_eq_nil_iff.mp joins
    simp only [List.nil_append]
    cases cutClauses (some clause) 0 rest <;> rfl

theorem cutClauses_free {body rest : List Token} (inner : ∀ t ∈ body, t.kind ≠ .stop)
    (joinFree : EachOutside d (·.kind ≠ .keyword .join) body) (free : ClauseFree d body) :
    cutClauses last d (body ++ rest) =
      (fun cut => (body ++ cut.1, cut.2)) <$> cutClauses last (d + Token.depth body) rest := by
  induction body generalizing d with
  | nil => simp
  | cons t body ih =>
    obtain ⟨joinless, joinFree⟩ := Token.eachOutside_cons.mp joinFree
    obtain ⟨closed, free⟩ := Token.eachOutside_cons.mp free
    rw [List.cons_append, cutClauses_other (inner t List.mem_cons_self) joinless closed,
      ih (fun u member => inner u (List.mem_cons_of_mem _ member)) joinFree free,
      Token.depth_cons, ← Int.add_assoc]
    cases cutClauses last (d + t.depthChange + Token.depth body) rest <;> rfl

theorem cutClauses_of_layout (layout : Layout d tokens before sections)
    (inner : ∀ t ∈ tokens, t.kind ≠ .stop)
    (joinFree : EachOutside d (·.kind ≠ .keyword .join) tokens)
    (ordered : InOrder last sections) : cutClauses last d tokens = .ok (before, sections) := by
  induction layout generalizing last with
  | @last d body free =>
    have cut : cutClauses last d (body ++ []) = _ := cutClauses_free inner joinFree free
    rw [List.append_nil] at cut
    rw [cut]
    simp [cutClauses]
  | @clause d before joined rest body t clause sections free outside opens joins others ih =>
    obtain ⟨beforeFree, tailFree⟩ := Token.eachOutside_append.mp joinFree
    rw [outside] at tailFree
    obtain ⟨-, tailFree⟩ := Token.eachOutside_cons.mp tailFree
    rw [depthChange_of_clause opens] at tailFree
    obtain ⟨-, restFree⟩ := Token.eachOutside_append.mp tailFree
    rw [depth_joined joins] at restFree
    obtain ⟨follows, ordered⟩ := ordered
    rw [cutClauses_free (fun u member => inner u (by simp [member])) beforeFree free, outside,
      cutClauses_clause opens joins follows,
      ih (fun u member => inner u (by simp [member])) restFree ordered]
    simp

theorem layout_clause {clause : Clause} (joined : List Token) {rest body : List Token}
    (opens : Clause.ofKind? t.kind = some clause)
    (joins : joined.map Token.kind = if clause.takesBy then [.keyword .by] else [])
    (follows : clause.follows last = true)
    (cut : Layout 0 rest body sections ∧ EachOutside 0 (·.kind ≠ .keyword .join) rest ∧
      InOrder (some clause) sections) :
    Layout 0 (t :: (joined ++ rest)) [] (⟨clause, t, body⟩ :: sections) ∧
      EachOutside 0 (·.kind ≠ .keyword .join) (t :: (joined ++ rest)) ∧
        InOrder last (⟨clause, t, body⟩ :: sections) := by
  obtain ⟨layout, joinFree, ordered⟩ := cut
  have start : Layout 0 ([] ++ t :: (joined ++ rest)) [] (⟨clause, t, body⟩ :: sections) :=
    .clause Token.eachOutside_nil rfl opens joins layout
  refine ⟨start, ?_, follows, ordered⟩
  have joinedFree : EachOutside 0 (·.kind ≠ .keyword .join) joined := by
    rintro before u after rfl - join
    have member : u.kind ∈ (before ++ u :: after).map Token.kind := by simp
    rw [joins, join] at member
    split at member <;> simp at member
  rw [Token.eachOutside_cons, depthChange_of_clause opens, Token.eachOutside_append,
    depth_joined joins]
  refine ⟨fun _ join => ?_, joinedFree, joinFree⟩
  rw [join] at opens
  exact absurd opens (by simp [Clause.ofKind?])

theorem opens_of_if {clause : Clause}
    (opens : (if d = 0 then Clause.ofKind? t.kind else none) = some clause) :
    d = 0 ∧ Clause.ofKind? t.kind = some clause := by
  split at opens
  · exact ⟨‹_›, opens⟩
  · exact absurd opens (by simp)

theorem layout_of_cutClauses (inner : ∀ t ∈ tokens, t.kind ≠ .stop)
    (cut : cutClauses last d tokens = .ok (before, sections)) :
    Layout d tokens before sections ∧ EachOutside d (·.kind ≠ .keyword .join) tokens ∧
      InOrder last sections := by
  -- The cases that refuse have no result and come last.
  fun_induction cutClauses last d tokens generalizing before sections with
  | case1 last d =>
    cases cut
    exact ⟨.last Token.eachOutside_nil, Token.eachOutside_nil, trivial⟩
  | case2 last d t ts stop => exact absurd stop (inner t List.mem_cons_self)
  | case4 last d t ts _ joinless closed ih =>
    rw [bind_ok_iff] at cut
    obtain ⟨⟨tail, others⟩, found, result⟩ := cut
    cases result
    obtain ⟨layout, joinFree, ordered⟩ :=
      ih (fun u member => inner u (List.mem_cons_of_mem _ member)) found
    have closed : d = 0 → Clause.ofKind? t.kind = none := fun outside => by
      simpa [outside] using closed
    have joinless : d = 0 → t.kind ≠ .keyword .join := fun outside join => joinless ⟨outside, join⟩
    exact ⟨layout.cons closed, Token.eachOutside_cons.mpr ⟨joinless, joinFree⟩, ordered⟩
  | case8 last d t _ _ clause opens takes u us by_ follows ih =>
    rw [bind_ok_iff] at cut
    obtain ⟨⟨body, others⟩, found, result⟩ := cut
    cases result
    obtain ⟨rfl, opens⟩ := opens_of_if opens
    exact layout_clause [u] opens (by simpa [takes] using by_) (by simpa using follows)
      (ih (fun v member => inner v (by simp [member])) found)
  | case10 last d t ts _ _ clause opens bare follows ih =>
    rw [bind_ok_iff] at cut
    obtain ⟨⟨body, others⟩, found, result⟩ := cut
    cases result
    obtain ⟨rfl, opens⟩ := opens_of_if opens
    exact layout_clause [] opens (by simp [bare]) (by simpa using follows)
      (ih (fun v member => inner v (by simp [member])) found)
  | case3 | case5 | case6 | case7 | case9 => cases cut

theorem cutClauses_append_stop {stop : Token} (ends : stop.kind = .stop)
    (inner : ∀ t ∈ tokens, t.kind ≠ .stop) (more : List Token) :
    cutClauses last d (tokens ++ stop :: more) = cutClauses last d tokens := by
  fun_induction cutClauses last d tokens with
  | case1 last d => simp [cutClauses, ends]
  | case2 last d t ts stops => exact absurd stops (inner t List.mem_cons_self)
  | case3 last d t ts other join => simp [cutClauses, join]
  | case4 last d t ts other joinless closed ih =>
    rw [List.cons_append, cutClauses, if_neg other, if_neg joinless]
    simp only [closed, ih fun u member => inner u (List.mem_cons_of_mem _ member)]
  | case5 last d t other joinless clause opens takes =>
    rw [List.cons_append, cutClauses, if_neg other, if_neg joinless]
    simp [opens, takes, ends, Fault.atToken]
  | case6 last d t other joinless clause opens takes u us without =>
    rw [List.cons_append, cutClauses, if_neg other, if_neg joinless]
    simp [opens, takes, without]
  | case7 last d t other joinless clause opens takes u us by_ late =>
    rw [List.cons_append, cutClauses, if_neg other, if_neg joinless]
    simp_all
  | case8 last d t other joinless clause opens takes u us by_ follows ih =>
    rw [List.cons_append, cutClauses, if_neg other, if_neg joinless]
    simp only [opens, takes, by_, follows, List.cons_append,
      ih fun v member => inner v (by simp [member])]
    simp
  | case9 last d t ts other joinless clause opens bare late =>
    rw [List.cons_append, cutClauses, if_neg other, if_neg joinless]
    simp_all
  | case10 last d t ts other joinless clause opens bare follows ih =>
    rw [List.cons_append, cutClauses, if_neg other, if_neg joinless]
    simp only [opens, bare, follows, ih fun v member => inner v (by simp [member])]
    simp

end Cutting

end SqlConsole
