import Mathlib.Data.List.Forall2

/-!
# Results that may be errors

A run of steps succeeds exactly if each step does (`bind_ok_iff`, `mapM_ok_iff`).
-/

namespace SqlConsole

variable {ε α β : Type}

theorem bind_ok_iff {x : Except ε α} {f : α → Except ε β} {b : β} :
    x >>= f = .ok b ↔ ∃ a, x = .ok a ∧ f a = .ok b := by
  cases x with
  | error e => simp [bind, Except.bind]
  | ok a => simp [bind, Except.bind]

theorem bind_error_iff {x : Except ε α} {f : α → Except ε β} {e : ε} :
    x >>= f = .error e ↔ x = .error e ∨ ∃ a, x = .ok a ∧ f a = .error e := by
  cases x with
  | error e => simp [bind, Except.bind]
  | ok a => simp [bind, Except.bind]

theorem map_ok_iff {x : Except ε α} {f : α → β} {b : β} :
    f <$> x = .ok b ↔ ∃ a, x = .ok a ∧ f a = b := by
  cases x with
  | error e => simp
  | ok a => simp

theorem map_error_iff {x : Except ε α} {f : α → β} {e : ε} :
    f <$> x = .error e ↔ x = .error e := by
  cases x with
  | error e => simp
  | ok a => simp

theorem mapError_ok_iff {ε' : Type} {x : Except ε α} {f : ε → ε'} {a : α} :
    x.mapError f = .ok a ↔ x = .ok a := by
  cases x with
  | error e => simp [Except.mapError]
  | ok b => simp [Except.mapError]

theorem map_bind_congr {γ δ : Type} {x : Except ε α} {g : α → β} {h : γ → δ}
    {f : α → Except ε γ} {f' : β → Except ε δ} (after : ∀ a, f' (g a) = h <$> f a) :
    (g <$> x) >>= f' = h <$> (x >>= f) := by
  cases x with
  | error e => rfl
  | ok a => exact after a

theorem succeeds_iff_not {x : Except ε α} {wrong : ε → Prop}
    (refused : ∀ e, x = .error e → wrong e) (sound : ∀ a, x = .ok a → ∀ e, ¬wrong e) :
    (∃ a, x = .ok a) ↔ ∀ e, ¬wrong e := by
  cases x with
  | error e => simpa using ⟨e, refused e rfl⟩
  | ok a => simpa using sound a rfl

theorem bind_succeeds {x : Except ε α} {f : α → Except ε β} (first : ∃ a, x = .ok a)
    (next : ∀ a, ∃ b, f a = .ok b) : ∃ b, x >>= f = .ok b := by
  obtain ⟨a, rfl⟩ := first
  exact next a

theorem bind_pure_succeeds_iff {x : Except ε α} {g : α → β} :
    (∃ b, (do return g (← x)) = Except.ok (ε := ε) b) ↔ ∃ a, x = .ok a := by
  cases x with
  | error e => simp [bind, Except.bind]
  | ok a => simp [bind, Except.bind, pure, Except.pure]

theorem mapM_ok_iff {f : α → Except ε β} {xs : List α} {ys : List β} :
    xs.mapM f = .ok ys ↔ List.Forall₂ (fun x y => f x = .ok y) xs ys := by
  induction xs generalizing ys with
  | nil => cases ys <;> simp [pure, Except.pure]
  | cons x xs ih =>
    rw [List.mapM_cons, bind_ok_iff]
    constructor
    · intro given
      obtain ⟨y, first, others⟩ := given
      rw [bind_ok_iff] at others
      obtain ⟨rest, others, result⟩ := others
      cases result
      exact .cons first (ih.mp others)
    · rintro (_ | ⟨first, others⟩)
      exact ⟨_, first, bind_ok_iff.mpr ⟨_, ih.mpr others, rfl⟩⟩

theorem mapM_some_iff {f : α → Option β} {xs : List α} {ys : List β} :
    xs.mapM f = some ys ↔ List.Forall₂ (fun x y => f x = some y) xs ys := by
  induction xs generalizing ys with
  | nil => cases ys <;> simp
  | cons x xs ih =>
    cases ys with
    | nil => simp [List.mapM_cons, Option.bind_eq_some_iff]
    | cons y ys => simp [List.mapM_cons, Option.bind_eq_some_iff, ih]

theorem option_mapM_ok_iff {f : α → Except ε β} {R : α → β → Prop} {x : Option α} {y : Option β}
    (each : ∀ a b, f a = .ok b ↔ R a b) : x.mapM f = .ok y ↔ Option.Rel R x y := by
  cases x with
  | none =>
    constructor
    · rintro ⟨⟩
      exact .none
    · rintro ⟨⟩
      rfl
  | some a =>
    rw [Option.mapM_some, map_ok_iff]
    constructor
    · rintro ⟨b, found, rfl⟩
      exact .some ((each a b).mp found)
    · rintro ⟨related⟩
      exact ⟨_, (each _ _).mpr related, rfl⟩

theorem mapM_map_result {γ : Type} {f : α → Except ε β} {g : β → γ} (xs : List α) :
    (xs.mapM fun x => g <$> f x) = List.map g <$> xs.mapM f := by
  induction xs with
  | nil => rfl
  | cons x xs ih =>
    rw [List.mapM_cons, List.mapM_cons, ih]
    exact map_bind_congr fun y => map_bind_congr fun ys => rfl

theorem forall_mem_of_forall₂ {R : α → β → Prop} {p : β → Prop} {xs : List α} {ys : List β}
    (each : ∀ x y, R x y → p y) (related : List.Forall₂ R xs ys) : ∀ y ∈ ys, p y := by
  intro y member
  obtain ⟨place, inside, rfl⟩ := List.getElem_of_mem member
  exact each _ _ (related.get (related.length_eq ▸ inside) inside)

theorem exists_of_forall₂ {R : α → β → Prop} {xs : List α} {ys : List β}
    (related : List.Forall₂ R xs ys) : ∀ y ∈ ys, ∃ x ∈ xs, R x y := by
  intro y member
  obtain ⟨place, inside, rfl⟩ := List.getElem_of_mem member
  exact ⟨_, List.getElem_mem _, related.get (related.length_eq ▸ inside) inside⟩

theorem exists_forall₂_iff {R : α → β → Prop} {xs : List α} :
    (∃ ys, List.Forall₂ R xs ys) ↔ ∀ x ∈ xs, ∃ y, R x y := by
  induction xs with
  | nil => simp
  | cons x xs ih =>
    rw [List.forall_mem_cons, ← ih]
    constructor
    · rintro ⟨_, _ | ⟨first, others⟩⟩
      exact ⟨⟨_, first⟩, _, others⟩
    · intro given
      obtain ⟨⟨y, first⟩, ys, others⟩ := given
      exact ⟨y :: ys, .cons first others⟩

theorem exists_mem_of_mapM_error {f : α → Except ε β} {xs : List α} {e : ε}
    (run : xs.mapM f = .error e) : ∃ x ∈ xs, f x = .error e := by
  induction xs with
  | nil => cases run
  | cons x xs ih =>
    rw [List.mapM_cons, bind_error_iff] at run
    rcases run with first | ⟨y, -, run⟩
    · exact ⟨x, List.mem_cons_self, first⟩
    · rcases bind_error_iff.mp run with later | ⟨_, _, ⟨⟩⟩
      obtain ⟨x, member, failed⟩ := ih later
      exact ⟨x, List.mem_cons_of_mem _ member, failed⟩

theorem forall₂_and_right {R : α → β → Prop} {p : β → Prop} {xs : List α} {ys : List β} :
    List.Forall₂ (fun x y => R x y ∧ p y) xs ys ↔ List.Forall₂ R xs ys ∧ ∀ y ∈ ys, p y := by
  induction xs generalizing ys with
  | nil => cases ys <;> simp
  | cons x xs ih =>
    cases ys with
    | nil => simp
    | cons y ys =>
      simp only [List.forall₂_cons, ih, List.forall_mem_cons]
      exact and_and_and_comm

theorem mapM_paired_ok_iff {f : α → Except ε β} {xs : List α} {pairs : List (β × α)} :
    (xs.mapM fun x => do return (← f x, x)) = .ok pairs ↔
      pairs.map Prod.snd = xs ∧ ∀ pair ∈ pairs, f pair.2 = .ok pair.1 := by
  rw [mapM_ok_iff]
  have each : ∀ x (pair : β × α), (do return (← f x, x)) = Except.ok (ε := ε) pair ↔
      pair.2 = x ∧ f pair.2 = .ok pair.1 := by
    intro x pair
    rw [bind_ok_iff]
    constructor
    · rintro ⟨y, result, ⟨⟩⟩
      exact ⟨rfl, result⟩
    · rintro ⟨rfl, result⟩
      exact ⟨pair.1, result, rfl⟩
  simp only [each]
  induction pairs generalizing xs with
  | nil => cases xs <;> simp
  | cons pair pairs ih =>
    cases xs with
    | nil => simp
    | cons x xs =>
      simp only [List.forall₂_cons, ih, List.map_cons, List.forall_mem_cons, List.cons.injEq]
      exact and_and_and_comm

theorem mapM_succeeds_iff {f : α → Except ε β} {xs : List α} :
    (∃ ys, xs.mapM f = .ok ys) ↔ ∀ x ∈ xs, ∃ y, f x = .ok y := by
  simp only [mapM_ok_iff, exists_forall₂_iff]

theorem mapM_paired_succeeds_iff {f : α → Except ε β} {xs : List α} :
    (∃ pairs, (xs.mapM fun x => do return (← f x, x)) = .ok pairs) ↔
      ∀ x ∈ xs, ∃ y, f x = .ok y := by
  simp only [mapM_succeeds_iff, bind_pure_succeeds_iff]

/-! ### Results that are there under a condition -/

/-- Whether a result can only be the given error, and only where the condition does not hold. -/
def SucceedsIf (condition : Prop) (failure : ε) (x : Except ε α) : Prop :=
  (∃ a, x = .ok a) ∨ ¬condition ∧ x = .error failure

namespace SucceedsIf

variable {condition : Prop} {failure : ε}

theorem exists_ok {x : Except ε α} (succeeds : SucceedsIf condition failure x)
    (holds : condition) : ∃ a, x = .ok a :=
  succeeds.resolve_right fun fails => fails.1 holds

theorem of_imp {stronger : Prop} {x : Except ε α} (succeeds : SucceedsIf condition failure x)
    (implies : stronger → condition) : SucceedsIf stronger failure x :=
  succeeds.imp_right fun fails => ⟨mt implies fails.1, fails.2⟩

theorem bind {x : Except ε α} {f : α → Except ε β} (first : SucceedsIf condition failure x)
    (next : ∀ a, x = .ok a → SucceedsIf condition failure (f a)) :
    SucceedsIf condition failure (x >>= f) := by
  rcases first with ⟨a, rfl⟩ | ⟨fails, rfl⟩
  · exact next a rfl
  · exact .inr ⟨fails, rfl⟩

theorem mapM {f : α → Except ε β} {xs : List α}
    (each : ∀ x ∈ xs, SucceedsIf condition failure (f x)) :
    SucceedsIf condition failure (xs.mapM f) := by
  induction xs with
  | nil => exact .inl ⟨[], rfl⟩
  | cons x xs ih =>
    obtain ⟨first, others⟩ := List.forall_mem_cons.mp each
    rw [List.mapM_cons]
    exact first.bind fun y _ => (ih others).bind fun ys _ => .inl ⟨y :: ys, rfl⟩

end SucceedsIf

/-! ### Results up to their errors -/

/-- Whether two results are one value, or errors both. -/
def SameValue (x y : Except ε α) : Prop := ∀ a, x = .ok a ↔ y = .ok a

namespace SameValue

theorem refl (x : Except ε α) : SameValue x x := fun _ => Iff.rfl

theorem of_errors (d e : ε) : SameValue (.error d : Except ε α) (.error e) := by
  intro a
  simp

theorem bind {x y : Except ε α} {f g : α → Except ε β} (first : SameValue x y)
    (next : ∀ a, SameValue (f a) (g a)) : SameValue (x >>= f) (y >>= g) := by
  intro b
  rw [bind_ok_iff, bind_ok_iff]
  exact exists_congr fun a => and_congr (first a) (next a b)

theorem mapM {γ : Type} {f : α → Except ε γ} {g : β → Except ε γ} {xs : List α} {ys : List β}
    (each : List.Forall₂ (fun x y => SameValue (f x) (g y)) xs ys) :
    SameValue (xs.mapM f) (ys.mapM g) := by
  induction each with
  | nil => exact refl _
  | cons first _ others =>
    rw [List.mapM_cons, List.mapM_cons]
    exact first.bind fun _ => others.bind fun _ => refl _

end SameValue

end SqlConsole
