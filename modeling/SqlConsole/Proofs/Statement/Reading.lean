import SqlConsole.Proofs.Query.Grammar

/-!
# Nothing past the end

Reading the tokens of a statement looks at no token after the one that marks the end
(`Statement.request?_append_stop`), whatever the tokens before it are.
-/

namespace SqlConsole

namespace Query

variable {f g : Token} {source : Text}

/-! ### The token after a clause -/

/-- Whether reading the body of a clause looks at the token after it only to blame it. -/
def OnlyBlames {α : Type} (read : Token → List Token → Except Fault α) : Prop :=
  ∀ f g body, Fault.atToken f = Fault.atToken g → read f body = read g body

theorem cutItems_onlyBlames : OnlyBlames cutItems := by
  intro f g body same
  have run : ∀ depth item, cutItemsFrom f depth item body = cutItemsFrom g depth item body := by
    induction body with
    | nil => simp only [cutItemsFrom, same, implies_true]
    | cons t body ih => simp only [cutItemsFrom, ih, implies_true]
  exact run 0 []

theorem columns?_onlyBlames : OnlyBlames (columns? source) := by
  intro f g body same
  rw [columns?, columns?, cutItems_onlyBlames f g body same]

theorem sortItems?_onlyBlames : OnlyBlames (sortItems? source) := by
  intro f g body same
  rw [sortItems?, sortItems?, cutItems_onlyBlames f g body same]

theorem source?_onlyBlames : OnlyBlames source? := by
  intro f g body same
  cases body with
  | nil => simp only [source?, same]
  | cons t ts =>
    have aliased : tableAlias? f ts = tableAlias? g ts := by
      cases ts with
      | nil => rfl
      | cons u us => cases us <;> simp only [tableAlias?, same]
    simp only [source?, aliased]

theorem count?_onlyBlames : OnlyBlames count? := by
  intro f g body same
  cases body <;> simp only [count?, same]

theorem filter?_onlyBlames : OnlyBlames (filter? source) := by
  intro f g body same
  simp only [filter?, same]

theorem body?_congr (clause : Clause) (same : Fault.atToken f = Fault.atToken g)
    (sections : List Section) :
    Option.Rel (fun a b => a.1 = b.1 ∧ Fault.atToken a.2 = Fault.atToken b.2)
      (body? clause f sections) (body? clause g sections) := by
  induction sections with
  | nil => exact .none
  | cons s rest ih =>
    rw [body?, body?]
    split
    · cases rest with
      | nil => exact .some ⟨rfl, same⟩
      | cons u us => exact .some ⟨rfl, rfl⟩
    · exact ih

theorem clause?_congr {α : Type} {read : Token → List Token → Except Fault α}
    (blames : OnlyBlames read) (clause : Clause) (same : Fault.atToken f = Fault.atToken g)
    (sections : List Section) :
    clause? clause f sections read = clause? clause g sections read := by
  have bodies := body?_congr clause same sections
  unfold clause?
  generalize body? clause f sections = left, body? clause g sections = right at bodies
  cases bodies with
  | none => rfl
  | @some a b related =>
    obtain ⟨body, follow⟩ := a
    obtain ⟨_, next⟩ := b
    obtain ⟨rfl, blamed⟩ := related
    exact congrArg (some <$> ·) (blames follow next body blamed)

theorem ofTokens?_append_stop {stop : Token} {tokens more : List Token} (ends : stop.kind = .stop)
    (inner : ∀ t ∈ tokens, t.kind ≠ .stop) (last : ∀ t ∈ more.getLast?, t.kind = .stop) :
    ofTokens? source (tokens ++ stop :: more) = ofTokens? source (tokens ++ [stop]) := by
  have blamesEnd : ∀ rest : List Token, (∀ t ∈ rest.getLast?, t.kind = .stop) → ∀ other,
      Fault.atToken ((tokens ++ stop :: rest).getLast?.getD other) = .endOfInput := by
    intro rest given other
    rw [List.getLast?_append, List.getLast?_cons, Option.some_or, Option.getD_some]
    cases found : rest.getLast? with
    | none => exact if_pos ends
    | some t => exact if_pos (given t found)
  have same := (blamesEnd more last ⟨.stop, "", 1, 1, 0, 0⟩).trans
    (blamesEnd [] (by simp) ⟨.stop, "", 1, 1, 0, 0⟩).symm
  unfold ofTokens?
  rw [cutClauses_append_stop ends inner, cutClauses_append_stop ends inner]
  generalize (tokens ++ stop :: more).getLast?.getD _ = f at same ⊢
  generalize (tokens ++ [stop]).getLast?.getD _ = g at same ⊢
  refine bind_congr fun cut => ?_
  obtain ⟨before, sections⟩ := cut
  have opening : Fault.atToken ((sections.head?.map (·.opening)).getD f) =
      Fault.atToken ((sections.head?.map (·.opening)).getD g) := by
    cases sections with
    | nil => exact same
    | cons s rest => rfl
  have bodies := body?_congr .from same sections
  dsimp only
  generalize body? .from f sections = left, body? .from g sections = right at bodies
  cases bodies with
  | none => simp only [opening]
  | @some a b related =>
    obtain ⟨body, follow⟩ := a
    obtain ⟨_, next⟩ := b
    obtain ⟨rfl, blamed⟩ := related
    simp only [columns?_onlyBlames _ _ before opening, source?_onlyBlames _ _ body blamed,
      clause?_congr filter?_onlyBlames .where same, clause?_congr columns?_onlyBlames .group same,
      clause?_congr sortItems?_onlyBlames .order same, clause?_congr count?_onlyBlames _ same]

end Query

namespace Statement

variable {source : Text} {stop : Token} {tokens more : List Token}

theorem complete?_append_stop {request : Request} (ends : stop.kind = .stop) :
    complete? request (tokens ++ stop :: more) = complete? request (tokens ++ [stop]) := by
  cases tokens with
  | nil => simp only [List.nil_append, complete?, ends]
  | cons t ts => rfl

theorem named?_append_stop {expectation : Expectation} {request : Text → Request}
    (ends : stop.kind = .stop) :
    named? expectation request (tokens ++ stop :: more) =
      named? expectation request (tokens ++ [stop]) := by
  cases tokens with
  | nil => simp [named?, ends]
  | cons t ts => simp only [List.cons_append, named?, complete?_append_stop ends]

theorem skipOf_append_stop (ends : stop.kind = .stop) (tokens more : List Token) :
    ∃ rest, skipOf (tokens ++ stop :: more) = rest ++ stop :: more ∧
      skipOf (tokens ++ [stop]) = rest ++ [stop] := by
  cases tokens with
  | nil => exact ⟨[], by simp [skipOf, ends], by simp [skipOf, ends]⟩
  | cons t ts =>
    rw [List.cons_append, List.cons_append, skipOf, skipOf]
    split
    · exact ⟨ts, rfl, rfl⟩
    · exact ⟨t :: ts, rfl, rfl⟩

theorem show?_append_stop (ends : stop.kind = .stop) :
    show? (tokens ++ stop :: more) = show? (tokens ++ [stop]) := by
  cases tokens with
  | nil => simp [show?, ends]
  | cons t ts =>
    obtain ⟨rest, skipped, same⟩ := skipOf_append_stop ends ts more
    simp only [List.cons_append, show?, complete?_append_stop ends, skipped, same,
      named?_append_stop ends]

theorem tableWrite?_append_stop {expectation : Expectation} {operation : WriteOperation} :
    tableWrite? expectation operation (tokens ++ stop :: more) =
      tableWrite? expectation operation (tokens ++ [stop]) := by
  cases tokens <;> rfl

theorem request?_append_stop (ends : stop.kind = .stop) (inner : ∀ t ∈ tokens, t.kind ≠ .stop)
    (last : ∀ t ∈ more.getLast?, t.kind = .stop) :
    request? source (tokens ++ stop :: more) = request? source (tokens ++ [stop]) := by
  cases tokens with
  | nil => simp only [List.nil_append, request?, ends]
  | cons t ts =>
    obtain ⟨-, others⟩ := List.forall_mem_cons.mp inner
    simp only [List.cons_append, request?, Query.ofTokens?_append_stop ends others last,
      show?_append_stop ends, named?_append_stop ends, tableWrite?_append_stop]

end Statement

end SqlConsole
