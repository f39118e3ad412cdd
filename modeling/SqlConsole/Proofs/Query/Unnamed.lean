import SqlConsole.Statement.Parse
import SqlConsole.Proofs.Token.Lexeme
import SqlConsole.Proofs.Result

/-!
# Queries without their places

Only the column references of a selection are taken from the source text. All else is read from the
kinds and the values of tokens, and so are the faults: reading tokens without their places, and
without a source text, gives the same selection with its references left out (`ofTokens?_bare`).
-/

namespace SqlConsole

/-! ### References left out -/

def Condition.unnamed (condition : Condition) : Condition := { condition with column := [] }

def SortItem.unnamed (item : SortItem) : SortItem := { item with column := [] }

/-- A selection without its column references. How many there are in each list is kept. -/
def Selection.unnamed (selection : Selection) : Selection :=
  { selection with
    columns := selection.columns.map fun _ => []
    condition := selection.condition.map Condition.unnamed
    groupBy := selection.groupBy.map fun _ => []
    orderBy := selection.orderBy.map SortItem.unnamed }

def Section.bare (s : Section) : Section := ⟨s.clause, s.opening.bare, s.body.map Token.bare⟩

namespace Token

variable (t : Token)

@[simp] theorem bare_kind : t.bare.kind = t.kind := rfl

@[simp] theorem bare_value : t.bare.value = t.value := rfl

@[simp] theorem bare_depthChange : t.bare.depthChange = t.depthChange := rfl

@[simp] theorem atToken_bare : Fault.atToken t.bare = Fault.atToken t := rfl

end Token

open Token (bare)

/-! ### Cutting -/

theorem cutClauses_bare (last : Option Clause) (depth : Int) (tokens : List Token) :
    cutClauses last depth (tokens.map bare) =
      (fun cut => (cut.1.map bare, cut.2.map Section.bare)) <$> cutClauses last depth tokens := by
  fun_induction cutClauses last depth tokens with
  | case1 => rfl
  | case2 last depth t ts ends => simp [cutClauses, ends]
  | case3 last depth t ts goesOn joins => simp [cutClauses, joins]
  | case4 last depth t ts goesOn joinFree none ih =>
    simp only [List.map_cons, cutClauses, Token.bare_kind, Token.bare_depthChange, if_neg goesOn,
      if_neg joinFree, none, ih]
    cases cutClauses last (depth + t.depthChange) ts <;> rfl
  | case5 last depth t goesOn joinFree clause opens takesBy =>
    simp [cutClauses, goesOn, joinFree, opens, takesBy]
  | case6 last depth t goesOn joinFree clause opens takesBy u us other =>
    simp [cutClauses, goesOn, joinFree, opens, takesBy, other]
  | case7 last depth t goesOn joinFree clause opens takesBy u us word early =>
    simp [cutClauses, goesOn, joinFree, opens, takesBy, word, early]
  | case8 last depth t goesOn joinFree clause opens takesBy u us word inOrder ih =>
    simp only [List.map_cons, cutClauses, Token.bare_kind, if_neg goesOn, if_neg joinFree,
      opens, takesBy, if_true, if_neg word, inOrder, ih]
    cases cutClauses (some clause) 0 us <;> rfl
  | case9 last depth t ts goesOn joinFree clause opens takesNone early =>
    simp [cutClauses, goesOn, joinFree, opens, takesNone, early]
  | case10 last depth t ts goesOn joinFree clause opens takesNone inOrder ih =>
    simp only [List.map_cons, cutClauses, Token.bare_kind, if_neg goesOn, if_neg joinFree,
      opens, takesNone, inOrder, ih]
    cases cutClauses (some clause) 0 ts <;> rfl

theorem cutItemsFrom_bare (follow : Token) (depth : Int) (item tokens : List Token) :
    cutItemsFrom follow.bare depth (item.map bare) (tokens.map bare) =
      List.map (List.map bare) <$> cutItemsFrom follow depth item tokens := by
  fun_induction cutItemsFrom follow depth item tokens with
  | case1 depth => rfl
  | case2 depth item present => simp [cutItemsFrom, present]
  | case3 depth t ts comma => simp [cutItemsFrom, comma]
  | case4 depth item t ts comma present ih =>
    rw [List.map_nil] at ih
    simp only [List.map_cons, cutItemsFrom, Token.bare_kind, comma, and_self, if_true,
      List.map_eq_nil_iff, present, if_false, ih]
    cases cutItemsFrom follow 0 [] ts <;> rfl
  | case5 depth item t ts inner ih =>
    rw [List.map_append, List.map_singleton] at ih
    rw [List.map_cons, cutItemsFrom, Token.bare_kind, if_neg inner, Token.bare_depthChange, ih]

theorem cutItems_bare (follow : Token) (tokens : List Token) :
    cutItems follow.bare (tokens.map bare) =
      List.map (List.map bare) <$> cutItems follow tokens :=
  cutItemsFrom_bare follow 0 [] tokens

namespace Query

variable (source : Text)

/-! ### Bodies of clauses -/

theorem slice_nil (tokens : List Token) : slice [] tokens = [] := by
  unfold slice
  split
  · simp only [List.drop_nil, List.take_nil]
    rfl
  · rfl

theorem columns?_bare (follow : Token) (body : List Token) :
    columns? [] follow.bare (body.map bare) =
      List.map (fun _ => []) <$> columns? source follow body := by
  unfold columns?
  rw [cutItems_bare]
  cases cutItems follow body with
  | error fault => rfl
  | ok items => simp [slice_nil, Function.comp_def]

theorem source?_bare (follow : Token) (body : List Token) :
    source? follow.bare (body.map bare) = source? follow body := by
  match body with
  | [] => rfl
  | [t] => rfl
  | [t, u] => rfl
  | [t, u, v] => rfl
  | t :: u :: v :: w :: more => rfl

theorem count?_bare (follow : Token) (body : List Token) :
    count? follow.bare (body.map bare) = count? follow body := by
  match body with
  | [] => rfl
  | [t] => rfl
  | t :: u :: more => rfl

theorem literal?_bare (tokens : List Token) : literal? (tokens.map bare) = literal? tokens := by
  match tokens with
  | [] => rfl
  | [t] => rfl
  | t :: u :: more => rfl

theorem reference?_bare (tokens : List Token) :
    reference? (tokens.map bare) =
      (reference? tokens).map fun found => (found.1.map bare, found.2.map bare) := by
  cases tokens with
  | nil => rfl
  | cons t more =>
    by_cases name : t.kind = .identifier
    · match more with
      | [] => simp [reference?, name]
      | [u] => simp [reference?, name]
      | u :: v :: more =>
        by_cases dotted : u.kind = .dot ∧ v.kind = .identifier
        · simp [reference?, name, dotted]
        · simp [reference?, name, dotted]
    · match more with
      | [] => simp [reference?, name]
      | [u] => simp [reference?, name]
      | u :: v :: more => simp [reference?, name]

theorem comparison?_bare (tokens : List Token) :
    comparison? [] (tokens.map bare) =
      (comparison? source tokens).map (Except.map Condition.unnamed) := by
  unfold comparison?
  rw [reference?_bare]
  cases reference? tokens with
  | none => rfl
  | some found =>
    obtain ⟨column, rest⟩ := found
    cases rest with
    | nil => rfl
    | cons t rest =>
      simp only [Option.map_some, Option.bind_eq_bind, Option.bind_some, List.map_cons,
        Token.bare_kind, literal?_bare, slice_nil]
      cases operator? t.kind with
      | none => rfl
      | some operator =>
        cases literal? rest with
        | none => rfl
        | some literal => cases literal <;> rfl

theorem condition?_bare (tokens : List Token) :
    condition? [] (tokens.map bare) =
      (condition? source tokens).map (Except.map Condition.unnamed) := by
  induction tokens with
  | nil => rfl
  | cons t ts ih =>
    rw [List.map_cons, condition?, condition?, ← List.map_cons, comparison?_bare source]
    cases comparison? source (t :: ts) with
    | none => exact ih
    | some condition => rfl

theorem filter?_bare (follow : Token) (body : List Token) :
    filter? [] follow.bare (body.map bare) =
      Option.map Condition.unnamed <$> filter? source follow body := by
  unfold filter?
  rw [condition?_bare source]
  cases body with
  | nil => rfl
  | cons t ts =>
    cases condition? source (t :: ts) with
    | none => rfl
    | some found => cases found <;> rfl

theorem direction?_bare (item : List Token) :
    direction? (item.map bare) = ((direction? item).1, (direction? item).2.map bare) := by
  have last : (item.map bare).getLast?.map Token.kind = item.getLast?.map Token.kind := by
    rw [List.getLast?_map, Option.map_map]
    rfl
  unfold direction?
  rw [last, ← List.map_dropLast]
  split <;> rfl

theorem sortItem?_bare (body item : List Token) :
    sortItem? [] (body.map bare) (item.map bare) =
      SortItem.unnamed <$> sortItem? source body item := by
  unfold sortItem?
  rw [direction?_bare]
  obtain ⟨direction, column⟩ := direction? item
  cases column with
  | nil => cases body <;> rfl
  | cons t column =>
    simp only [List.map_cons, slice_nil]
    rfl

theorem sortItems?_bare (follow : Token) (body : List Token) :
    sortItems? [] follow.bare (body.map bare) =
      List.map SortItem.unnamed <$> sortItems? source follow body := by
  unfold sortItems?
  rw [cutItems_bare]
  cases cutItems follow body with
  | error fault => rfl
  | ok items =>
    calc (items.map (List.map bare)).mapM (sortItem? [] (body.map bare))
        = items.mapM fun item => SortItem.unnamed <$> sortItem? source body item := by
          rw [List.mapM_map]
          exact congrArg (items.mapM ·) (funext fun item => sortItem?_bare source body item)
      _ = List.map SortItem.unnamed <$> items.mapM (sortItem? source body) := mapM_map_result items

/-! ### Whole queries -/

theorem body?_bare (clause : Clause) (stop : Token) (sections : List Section) :
    body? clause stop.bare (sections.map Section.bare) =
      (body? clause stop sections).map fun found => (found.1.map bare, found.2.bare) := by
  induction sections with
  | nil => rfl
  | cons s rest ih =>
    simp only [List.map_cons, body?, Section.bare]
    split
    · cases rest <;> rfl
    · exact ih

theorem clause?_bare {α β : Type} {g : α → β} {read : Token → List Token → Except Fault α}
    {read' : Token → List Token → Except Fault β} (clause : Clause) (stop : Token)
    (sections : List Section)
    (each : ∀ follow body, read' follow.bare (body.map bare) = g <$> read follow body) :
    clause? clause stop.bare (sections.map Section.bare) read' =
      Option.map g <$> clause? clause stop sections read := by
  unfold clause?
  rw [body?_bare]
  cases body? clause stop sections with
  | none => rfl
  | some found =>
    obtain ⟨body, follow⟩ := found
    simp only [Option.map_some, each]
    cases read follow body <;> rfl

section

variable (clause : Clause) (stop : Token) (sections : List Section)

theorem filterClause_bare :
    clause? clause stop.bare (sections.map Section.bare) (filter? []) =
      Option.map (Option.map Condition.unnamed) <$>
        clause? clause stop sections (filter? source) :=
  clause?_bare clause stop sections (filter?_bare source)

theorem columnsClause_bare :
    clause? clause stop.bare (sections.map Section.bare) (columns? []) =
      Option.map (List.map fun _ => []) <$> clause? clause stop sections (columns? source) :=
  clause?_bare clause stop sections (columns?_bare source)

theorem sortItemsClause_bare :
    clause? clause stop.bare (sections.map Section.bare) (sortItems? []) =
      Option.map (List.map SortItem.unnamed) <$>
        clause? clause stop sections (sortItems? source) :=
  clause?_bare clause stop sections (sortItems?_bare source)

theorem countClause_bare :
    clause? clause stop.bare (sections.map Section.bare) count? =
      clause? clause stop sections count? := by
  have each : ∀ follow body, count? follow.bare (body.map bare) = id <$> count? follow body := by
    intro follow body
    rw [id_map, count?_bare]
  rw [clause?_bare clause stop sections each, Option.map_id, id_map]

end

theorem head?_opening_bare (stop : Token) (sections : List Section) :
    ((sections.map Section.bare).head?.map Section.opening).getD stop.bare =
      ((sections.head?.map Section.opening).getD stop).bare := by
  cases sections <;> rfl

/-- Without places and a source text, the selection of tokens lacks its references, and what is at
fault is the same. -/
theorem ofTokens?_bare (tokens : List Token) :
    ofTokens? [] (tokens.map bare) = Selection.unnamed <$> ofTokens? source tokens := by
  rcases List.eq_nil_or_concat' tokens with rfl | ⟨inner, stop, rfl⟩
  · rfl
  have last : ((inner ++ [stop]).map bare).getLast? = some stop.bare := by simp
  unfold ofTokens?
  rw [last, List.getLast?_concat, Option.getD_some, Option.getD_some, cutClauses_bare]
  refine map_bind_congr fun cut => ?_
  obtain ⟨before, sections⟩ := cut
  simp only [body?_bare, head?_opening_bare]
  cases body? .from stop sections with
  | none => rfl
  | some found =>
    obtain ⟨body, follow⟩ := found
    simp only [Option.map_some, columns?_bare source, source?_bare,
      filterClause_bare source, columnsClause_bare source,
      sortItemsClause_bare source, countClause_bare]
    refine map_bind_congr fun columns => ?_
    rw [map_bind]
    refine bind_congr fun table => ?_
    refine map_bind_congr fun condition => ?_
    refine map_bind_congr fun groupBy => ?_
    refine map_bind_congr fun orderBy => ?_
    rw [map_bind]
    refine bind_congr fun limit => ?_
    rw [map_bind]
    refine bind_congr fun offset => ?_
    cases condition <;> cases groupBy <;> cases orderBy <;> rfl

end Query

end SqlConsole
