import SqlConsole.Statement.Query
import SqlConsole.Proofs.Result

/-!
# Faults of queries

Reading the tokens of a query finds faults of its syntax only, but for a number among the tokens
that is too long to be read (`ofTokens?_faults`): no fault is that of a text that cannot be cut
into tokens.
-/

namespace SqlConsole

variable {α β : Type} {tokens : List Token}

def Text.IsShort (t : Text) : Prop := t.length ≤ digitLimit

instance (t : Text) : Decidable t.IsShort := inferInstanceAs (Decidable (t.length ≤ Text.digitLimit))

theorem Text.natural?_eq_error_iff {t : Text} {what : Overlong} :
    t.natural? = .error what ↔ ¬t.IsShort ∧ what = .numeral t.length := by
  unfold natural? IsShort
  split <;> simp [*, eq_comm]

theorem Text.natural?_eq_ok_iff {t : Text} {n : Nat} :
    t.natural? = .ok n ↔ t.IsShort ∧ t.natural = n := by
  unfold natural? IsShort
  split <;> simp [*]

/-- Whether one of the given tokens is a number that is too long to be read. -/
def Overlong.IsOf (tokens : List Token) (what : Overlong) : Prop :=
  ∃ t ∈ tokens, t.kind = .integer ∧ ¬t.value.IsShort ∧ what = .numeral t.value.length

theorem Overlong.IsOf.of_subset {what : Overlong} {more : List Token} (overlong : what.IsOf tokens)
    (subset : tokens ⊆ more) : what.IsOf more := by
  obtain ⟨t, member, long⟩ := overlong
  exact ⟨t, subset member, long⟩

theorem Fault.kind_eq_uncaught {fault : Fault} :
    fault.kind = .uncaught ↔ ∃ what, fault = .overlong what := by
  cases fault <;> simp [kind]

namespace Query

/-- Whether a result is anything but a fault that is neither one of syntax nor that of a number
among the given tokens that is too long. -/
def FaultsIn (tokens : List Token) (result : Except Fault α) : Prop :=
  ∀ fault, result = .error fault →
    fault.kind = .syntactic ∨ ∃ what, fault = .overlong what ∧ what.IsOf tokens

namespace FaultsIn

theorem ok {a : α} : FaultsIn tokens (.ok a) := by
  rintro fault ⟨⟩

theorem atToken {t : Token} : FaultsIn tokens (.error (.atToken t) : Except Fault α) := by
  rintro fault ⟨⟩
  unfold Fault.atToken
  split <;> exact .inl rfl

theorem overlong {x : Except Overlong α} (reads : ∀ what, x = .error what → what.IsOf tokens) :
    FaultsIn tokens (x.mapError .overlong) := by
  intro fault fails
  cases x with
  | ok a => cases fails
  | error what =>
    cases fails
    exact .inr ⟨what, rfl, reads what rfl⟩

theorem bind {x : Except Fault α} {f : α → Except Fault β} (first : FaultsIn tokens x)
    (next : ∀ a, x = .ok a → FaultsIn tokens (f a)) : FaultsIn tokens (x >>= f) := by
  intro fault fails
  rcases bind_error_iff.mp fails with fails | ⟨a, found, fails⟩
  · exact first fault fails
  · exact next a found fault fails

theorem map {x : Except Fault α} {f : α → β} (first : FaultsIn tokens x) :
    FaultsIn tokens (f <$> x) :=
  fun fault fails => first fault (map_error_iff.mp fails)

theorem mapM {f : α → Except Fault β} {xs : List α} (each : ∀ x, FaultsIn tokens (f x)) :
    FaultsIn tokens (xs.mapM f) := by
  intro fault fails
  obtain ⟨x, -, fails⟩ := exists_mem_of_mapM_error fails
  exact each x fault fails

end FaultsIn

open FaultsIn

/-! ### Syntax -/

theorem cutClauses_faults (last : Option Clause) (depth : Int) (run : List Token) :
    FaultsIn tokens (cutClauses last depth run) := by
  fun_induction cutClauses last depth run with
  | case1 | case2 => exact ok
  | case3 | case5 =>
    rintro fault ⟨⟩
    exact .inl rfl
  | case4 _ _ _ _ _ _ _ ih => exact ih.bind fun _ _ => ok
  | case6 | case7 | case9 => exact atToken
  | case8 _ _ _ _ _ _ _ _ _ _ _ _ ih => exact ih.bind fun _ _ => ok
  | case10 _ _ _ _ _ _ _ _ _ _ ih => exact ih.bind fun _ _ => ok

theorem cutItems_faults (follow : Token) (body : List Token) :
    FaultsIn tokens (cutItems follow body) := by
  unfold cutItems
  fun_induction cutItemsFrom follow 0 [] body with
  | case1 | case3 => exact atToken
  | case2 => exact ok
  | case4 _ _ _ _ _ _ ih => exact ih.bind fun _ _ => ok
  | case5 _ _ _ _ _ ih => exact ih

theorem source?_faults (follow : Token) (body : List Token) :
    FaultsIn tokens (source? follow body) := by
  have named : ∀ t ts, FaultsIn tokens (tableAlias?.named t ts) := by
    intro t ts
    unfold tableAlias?.named
    split
    · exact atToken
    · cases ts
      · exact ok
      · exact atToken
  have aliased : ∀ ts, FaultsIn tokens (tableAlias? follow ts) := by
    intro ts
    fun_cases tableAlias? follow ts with
    | case1 => exact ok
    | case2 => exact atToken
    | case3 | case4 => exact named _ _
  fun_cases source? follow body with
  | case1 | case2 => exact atToken
  | case3 => exact (aliased _).bind fun _ _ => ok

theorem sortItem?_faults (source : Text) (body item : List Token) :
    FaultsIn tokens (sortItem? source body item) := by
  unfold sortItem?
  dsimp only
  split
  · exact atToken
  · exact ok

/-! ### Numbers -/

theorem count?_faults (follow : Token) (body : List Token) :
    FaultsIn body (count? follow body) := by
  fun_cases count? follow body with
  | case1 | case2 | case4 => exact atToken
  | case3 t number =>
    refine overlong fun what fails => ?_
    obtain ⟨long, rfl⟩ := Text.natural?_eq_error_iff.mp fails
    exact ⟨t, List.mem_singleton_self t, by simpa using number, long, rfl⟩

theorem number?_eq_error {negative : Bool} {t : Token} {what : Overlong}
    (fails : number? negative t = some (.error what)) : what.IsOf [t] := by
  unfold number? at fails
  split at fails
  · rename_i kind
    have fails := map_error_iff.mp (Option.some.inj fails)
    obtain ⟨long, rfl⟩ := Text.natural?_eq_error_iff.mp fails
    exact ⟨t, List.mem_singleton_self t, kind, long, rfl⟩
  · simp at fails
  · cases fails

theorem literal?_eq_error {run : List Token} {what : Overlong}
    (fails : literal? run = some (.error what)) : what.IsOf run := by
  unfold literal? at fails
  split at fails
  · cases fails
  rename_i t rest
  split at fails
  · cases fails
  split at fails
  · obtain ⟨u, next, fails⟩ := Option.bind_eq_some_iff.mp fails
    obtain ⟨rest, rfl⟩ := List.head?_eq_some_iff.mp next
    exact (number?_eq_error fails).of_subset (by simp)
  · exact (number?_eq_error fails).of_subset (by simp)

theorem reference?_subset {run column rest : List Token}
    (read : reference? run = some (column, rest)) : rest ⊆ run := by
  unfold reference? at read
  intro v member
  split at read
  · split at read
    · cases read
    split at read <;> cases read <;> simp_all
  · split at read <;> cases read
    simp [member]
  · cases read

theorem comparison?_eq_error {source : Text} {run : List Token} {what : Overlong}
    (fails : comparison? source run = some (.error what)) : what.IsOf run := by
  unfold comparison? at fails
  obtain ⟨⟨column, rest⟩, front, fails⟩ := Option.bind_eq_some_iff.mp fails
  cases rest with
  | nil => cases fails
  | cons t rest =>
    obtain ⟨operator, -, fails⟩ := Option.bind_eq_some_iff.mp fails
    obtain ⟨literal, given, fails⟩ := Option.bind_eq_some_iff.mp fails
    cases literal with
    | ok value => cases fails
    | error what =>
      cases fails
      have subset := List.subset_of_cons_subset (reference?_subset front)
      exact (literal?_eq_error given).of_subset subset

theorem condition?_eq_error {source : Text} {body : List Token} {what : Overlong}
    (fails : condition? source body = some (.error what)) : what.IsOf body := by
  induction body with
  | nil => cases fails
  | cons t body ih =>
    rw [condition?] at fails
    split at fails
    · rename_i found
      cases fails
      exact comparison?_eq_error found
    · exact (ih fails).of_subset (List.subset_cons_self t body)

theorem filter?_faults (source : Text) (follow : Token) (body : List Token) :
    FaultsIn body (filter? source follow body) := by
  unfold filter?
  split
  · exact atToken
  · cases found : condition? source body with
    | none => exact ok
    | some result =>
      refine (overlong fun what fails => ?_).map
      exact condition?_eq_error (found.trans (congrArg some fails))

/-! ### Whole queries -/

theorem body_subset_of_cutClauses {last : Option Clause} {depth : Int} {run before : List Token}
    {sections : List Section} (cut : cutClauses last depth run = .ok (before, sections)) :
    ∀ s ∈ sections, s.body ⊆ run := by
  suffices parts : before ⊆ run ∧ ∀ s ∈ sections, s.body ⊆ run from parts.2
  have later : ∀ {body rest run : List Token} {clause : Clause} {opening : Token}
      {sections : List Section}, (body ⊆ rest ∧ ∀ s ∈ sections, s.body ⊆ rest) → rest ⊆ run →
      [] ⊆ run ∧ ∀ s ∈ Section.mk clause opening body :: sections, s.body ⊆ run := by
    intro body rest run clause opening sections parts subset
    refine ⟨List.nil_subset run, List.forall_mem_cons.mpr ⟨List.Subset.trans parts.1 subset, ?_⟩⟩
    exact fun s member => List.Subset.trans (parts.2 s member) subset
  fun_induction cutClauses last depth run generalizing before sections with
  | case1 | case2 =>
    cases cut
    simp
  | case3 | case5 | case6 | case7 | case9 => cases cut
  | case4 _ _ t ts _ _ _ ih =>
    obtain ⟨⟨front, _⟩, found, ⟨⟩⟩ := bind_ok_iff.mp cut
    obtain ⟨first, others⟩ := ih found
    exact ⟨List.cons_subset_cons t first,
      fun s member => List.Subset.trans (others s member) (by simp)⟩
  | case8 _ _ _ _ _ _ _ _ u us _ _ ih =>
    obtain ⟨⟨body, _⟩, found, ⟨⟩⟩ := bind_ok_iff.mp cut
    exact later (ih found) (by simp)
  | case10 _ _ _ ts _ _ _ _ _ _ ih =>
    obtain ⟨⟨body, _⟩, found, ⟨⟩⟩ := bind_ok_iff.mp cut
    exact later (ih found) (by simp)

theorem clause?_faults {clause : Clause} {stop : Token} {sections : List Section}
    {read : Token → List Token → Except Fault α} (subset : ∀ s ∈ sections, s.body ⊆ tokens)
    (each : ∀ follow body, body ⊆ tokens → FaultsIn tokens (read follow body)) :
    FaultsIn tokens (clause? clause stop sections read) := by
  have within : ∀ body follow, body? clause stop sections = some (body, follow) →
      body ⊆ tokens := by
    induction sections with
    | nil => simp [body?]
    | cons s sections ih =>
      obtain ⟨first, others⟩ := List.forall_mem_cons.mp subset
      intro body follow found
      rw [body?] at found
      split at found
      · cases found
        exact first
      · exact ih others body follow found
  unfold clause?
  split
  · exact (each _ _ (within _ _ ‹_›)).map
  · exact ok

theorem ofTokens?_faults (source : Text) (tokens : List Token) :
    FaultsIn tokens (ofTokens? source tokens) := by
  have mono : ∀ {α : Type} {body : List Token} {result : Except Fault α}, FaultsIn body result →
      body ⊆ tokens → FaultsIn tokens result := fun faults subset fault fails =>
    (faults fault fails).imp_right fun ⟨what, same, long⟩ => ⟨what, same, long.of_subset subset⟩
  have lists : ∀ follow body, FaultsIn tokens (columns? source follow body) :=
    fun follow body => (cutItems_faults follow body).bind fun _ _ => ok
  have sorts : ∀ follow body, FaultsIn tokens (sortItems? source follow body) :=
    fun follow body => (cutItems_faults follow body).bind fun _ _ =>
      mapM fun item => sortItem?_faults source body item
  unfold ofTokens?
  refine (cutClauses_faults _ _ _).bind fun (columns, sections) cut => ?_
  have parts := body_subset_of_cutClauses cut
  have counts : ∀ follow body, body ⊆ tokens → FaultsIn tokens (count? follow body) :=
    fun follow body => mono (count?_faults follow body)
  dsimp only
  split
  · exact atToken
  · refine (lists _ _).bind fun _ _ => (source?_faults _ _).bind fun (_, _) _ => ?_
    refine (clause?_faults parts fun follow body => mono (filter?_faults source follow body)).bind
      fun _ _ => ?_
    refine (clause?_faults parts fun follow body _ => lists follow body).bind fun _ _ => ?_
    refine (clause?_faults parts fun follow body _ => sorts follow body).bind fun _ _ => ?_
    exact (clause?_faults parts counts).bind fun _ _ =>
      (clause?_faults parts counts).bind fun _ _ => ok

end Query

end SqlConsole
