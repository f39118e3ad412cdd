import SqlConsole.Proofs.Selection.Running
import Mathlib.Data.Nat.Find

/-!
# Pages

A selection with a limit and an offset has, of the answer that it has without them, the rows of that
page (`Catalog.run_paged`). So the pages of one size, up to the first one without rows, make up the
answer (`Catalog.run_pages`).
-/

namespace SqlConsole

namespace Execution

variable {α β : Type}

theorem forall₂_page {R : α → β → Prop} {xs : List α} {ys : List β} (each : List.Forall₂ R xs ys)
    (limit offset : Option Nat) :
    List.Forall₂ R (page limit offset xs) (page limit offset ys) := by
  unfold page
  cases limit with
  | none => exact List.forall₂_drop _ each
  | some n => exact List.forall₂_take _ (List.forall₂_drop _ each)

theorem map_page (f : α → β) (limit offset : Option Nat) (rows : List α) :
    (page limit offset rows).map f = page limit offset (rows.map f) := by
  unfold page
  cases limit with
  | none => exact List.map_drop
  | some n => exact List.map_take.trans (congrArg _ List.map_drop)

theorem flatMap_page (n count : Nat) (rows : List α) :
    (List.range count).flatMap (fun k => page (some n) (some (k * n)) rows) =
      rows.take (count * n) := by
  induction count with
  | zero => simp
  | succ count ih =>
    rw [List.range_succ, List.flatMap_append, ih, Nat.succ_mul, List.take_add]
    simp [page]

theorem length_page (n k : Nat) (rows : List α) :
    (page (some n) (some (k * n)) rows).length = min n (rows.length - k * n) := by
  simp [page]

theorem exists_pages {n : Nat} (positive : 0 < n) (rows : List α) :
    ∃ count, page (some n) (some (count * n)) rows = [] ∧
      (∀ k < count, page (some n) (some (k * n)) rows ≠ []) ∧
      (List.range count).flatMap (fun k => page (some n) (some (k * n)) rows) = rows ∧
      ∀ k, k + 1 < count → (page (some n) (some (k * n)) rows).length = n := by
  have ends : ∃ count, rows.length ≤ count * n :=
    ⟨rows.length, Nat.le_mul_of_pos_right _ positive⟩
  have within : ∀ k < Nat.find ends, k * n < rows.length := fun k earlier =>
    Nat.lt_of_not_le (Nat.find_min ends earlier)
  have passed := Nat.find_spec ends
  refine ⟨Nat.find ends, ?_, fun k earlier => ?_, ?_, fun k earlier => ?_⟩
  · rw [← List.length_eq_zero_iff, length_page]
    omega
  · have inside := within k earlier
    rw [← List.length_pos_iff, length_page]
    omega
  · rw [flatMap_page, List.take_of_length_le passed]
  · have inside := within (k + 1) earlier
    rw [Nat.succ_mul] at inside
    rw [length_page]
    omega

end Execution

/-! ### Limits and offsets -/

def Selection.paged (selection : Selection) (limit offset : Option Nat) : Selection :=
  { selection with limit, offset }

def Plan.paged (plan : Plan) (limit offset : Option Nat) : Plan := { plan with limit, offset }

namespace Plan

variable {selection : Selection} {plan : Plan} {out : List Row}

theorem ofTable_paged {table : Table} (planned : ofTable selection table = .ok plan)
    (limit offset : Option Nat) :
    ofTable (selection.paged limit offset) table = .ok (plan.paged limit offset) := by
  obtain ⟨columns, expanded, planned⟩ := bind_ok_iff.mp planned
  obtain ⟨filter, filtered, planned⟩ := bind_ok_iff.mp planned
  obtain ⟨groupBy, grouped, planned⟩ := bind_ok_iff.mp planned
  obtain ⟨orderBy, ordered, ⟨⟩⟩ := bind_ok_iff.mp planned
  exact bind_ok_iff.mpr ⟨columns, expanded, bind_ok_iff.mpr ⟨filter, filtered,
    bind_ok_iff.mpr ⟨groupBy, grouped, bind_ok_iff.mpr ⟨orderBy, ordered, rfl⟩⟩⟩⟩

theorem ofSelection_paged {database : Database}
    (planned : ofSelection selection database = .ok plan) (limit offset : Option Nat) :
    ofSelection (selection.paged limit offset) database = .ok (plan.paged limit offset) := by
  unfold ofSelection at planned ⊢
  rw [show (selection.paged limit offset).table = selection.table from rfl]
  split at planned
  · exact ofTable_paged planned limit offset
  · cases planned

theorem eq_paged_of_ofSelection {database : Database}
    (planned : ofSelection selection database = .ok plan) :
    plan = plan.paged selection.limit selection.offset :=
  Except.ok.inj (planned.symm.trans (ofSelection_paged planned selection.limit selection.offset))

theorem run_paged (unlimited : plan.limit = none) (unskipped : plan.offset = none)
    (run : plan.run = .ok out) (limit offset : Option Nat) :
    (plan.paged limit offset).run = .ok (Execution.page limit offset out) := by
  obtain ⟨kept, filtered, run⟩ := bind_ok_iff.mp run
  obtain ⟨grouped, groups, run⟩ := bind_ok_iff.mp run
  obtain ⟨sorted, order, run⟩ := bind_ok_iff.mp run
  rw [page_eq_self unlimited unskipped, mapM_ok_iff] at run
  refine bind_ok_iff.mpr ⟨kept, filtered, bind_ok_iff.mpr ⟨grouped, groups,
    bind_ok_iff.mpr ⟨sorted, order, ?_⟩⟩⟩
  exact mapM_ok_iff.mpr (Execution.forall₂_page run limit offset)

end Plan

variable {catalog : Catalog} {selection : Selection} {name : Option Text} {answer : ResultSet}

theorem Catalog.run_paged (unlimited : selection.limit = none) (unskipped : selection.offset = none)
    (run : catalog.run selection name = .ok answer) (limit offset : Option Nat) :
    catalog.run (selection.paged limit offset) name =
      .ok ⟨answer.columns, Execution.page limit offset answer.rows,
        (Execution.page limit offset answer.rows).length⟩ := by
  unfold Catalog.run at run ⊢
  cases found : name.bind catalog.database? with
  | none =>
    rw [found] at run
    cases run
  | some database =>
    rw [found] at run
    obtain ⟨plan, planned, run⟩ := bind_ok_iff.mp run
    have whole := Plan.eq_paged_of_ofSelection planned
    rw [unlimited, unskipped] at whole
    cases rows : plan.run with
    | error e =>
      rw [rows] at run
      cases run
    | ok out =>
      rw [rows] at run
      cases run
      have paged := Plan.run_paged (congrArg Plan.limit whole) (congrArg Plan.offset whole) rows
        limit offset
      refine bind_ok_iff.mpr ⟨_, Plan.ofSelection_paged planned limit offset, ?_⟩
      rw [paged]
      simp only [← Execution.map_page, List.length_map]
      rfl

/-- A selection without limit and offset that is answered is also answered page by page, whatever
the size of the pages. Put together up to the first page without rows, they are the rows of the
answer, and all but the last one are full. An offset alone leaves out so many rows, a limit of zero
leaves none, and a limit alone gives the first page. -/
theorem Catalog.run_pages (unlimited : selection.limit = none) (unskipped : selection.offset = none)
    (run : catalog.run selection name = .ok answer) {n : Nat} (positive : 0 < n) :
    (∃ pages : Nat → List (List Value),
      (∀ k, catalog.run (selection.paged (some n) (some (k * n))) name =
        .ok ⟨answer.columns, pages k, (pages k).length⟩) ∧
      ∃ count, pages count = [] ∧ (∀ k < count, pages k ≠ []) ∧
        (List.range count).flatMap pages = answer.rows ∧
        ∀ k, k + 1 < count → (pages k).length = n) ∧
      (∀ m, catalog.run (selection.paged none (some m)) name =
        .ok ⟨answer.columns, answer.rows.drop m, (answer.rows.drop m).length⟩) ∧
      (∀ offset, catalog.run (selection.paged (some 0) offset) name =
        .ok ⟨answer.columns, [], 0⟩) ∧
      catalog.run (selection.paged (some n) none) name =
        catalog.run (selection.paged (some n) (some 0)) name := by
  have paged := run_paged unlimited unskipped run
  refine ⟨⟨fun k => Execution.page (some n) (some (k * n)) answer.rows, fun k => paged _ _,
    Execution.exists_pages positive answer.rows⟩, fun m => paged none (some m), fun offset => ?_, ?_⟩
  · rw [paged]
    simp [Execution.page]
  · rw [paged, paged]
    rfl

def Table.laps : Table where
  name := "laps"
  columns := ["lap", "time"]
  rows := [[.integer 1, .integer 70], [.integer 2, .integer 64], [.integer 3, .integer 91],
    [.integer 4, .integer 64], [.integer 5, .integer 66]]
  columns_distinct := by decide
  rows_aligned := by decide

/-- The first laps of each time below 80. -/
def Selection.fastLaps : Selection where
  columns := ["lap"]
  table := "laps"
  tableAlias := none
  condition := some ⟨"time", .lt, .integer 80⟩
  groupBy := ["time"]
  orderBy := []
  limit := none
  offset := none

theorem Catalog.run_pages_fastLaps :
    ∃ pages : Nat → List (List Value),
      (∀ k, Catalog.run ⟨[⟨"race", [.laps]⟩]⟩ (Selection.fastLaps.paged (some 2) (some (k * 2)))
        (some "race") = .ok ⟨["lap"], pages k, (pages k).length⟩) ∧
      ∃ count, pages count = [] ∧ (∀ k, k + 1 < count → (pages k).length = 2) ∧
        (List.range count).flatMap pages = [[.integer 1], [.integer 2], [.integer 5]] := by
  have run : Catalog.run ⟨[⟨"race", [.laps]⟩]⟩ .fastLaps (some "race") =
      .ok ⟨["lap"], [[.integer 1], [.integer 2], [.integer 5]], 3⟩ := rfl
  obtain ⟨⟨pages, each, count, last, -, whole, full⟩, -⟩ :=
    run_pages rfl rfl run (by decide : 0 < 2)
  exact ⟨pages, each, count, last, full, whole⟩

end SqlConsole
