import SqlConsole.Proofs.Selection.Rows
import SqlConsole.Proofs.Sorting.Runs
import SqlConsole.Proofs.Value.Order
import Mathlib.Data.List.Perm.Basic

/-!
# Sorting by several columns

Sorting by one column after another, the last column first, puts rows into the order of all columns
at once (`orderRows_precedes`): the first column in which two rows differ decides, and rows that do
not differ stay in the order of the table. It rests on a fact about one pass: a stable sort orders
by its key, and within a key as before (`pairwise_mergeSort_stable`).
-/

namespace SqlConsole

/-! ### One stable pass -/

theorem pairwise_mergeSort_stable {α : Type} {le : α → α → Bool}
    (trans : ∀ a b c, le a b = true → le b c = true → le a c = true)
    (total : ∀ a b, (le a b || le b a) = true) {R : α → α → Prop} {items : List α}
    (ordered : items.Pairwise R) :
    (items.mergeSort le).Pairwise fun a b => le a b = true ∧ (le b a = true → R a b) := by
  -- The places of the items in the list decide between level ones.
  rw [← List.mergeSort_zipIdx, List.pairwise_map]
  have sorted := List.pairwise_mergeSort (List.zipIdxLE_trans trans) (List.zipIdxLE_total total)
    items.zipIdx
  have distinct : (items.zipIdx.mergeSort (List.zipIdxLE le)).Pairwise fun p q => p.2 ≠ q.2 := by
    have numbered : (items.zipIdx.map Prod.snd).Nodup := by
      rw [List.zipIdx_map_snd]
      exact List.nodup_range'
    have permuted := ((List.mergeSort_perm items.zipIdx (List.zipIdxLE le)).map Prod.snd).nodup_iff
    exact List.pairwise_map.mp (permuted.mpr numbered)
  have placed : ∀ p ∈ items.zipIdx.mergeSort (List.zipIdxLE le), items[p.2]? = some p.1 :=
    fun p member => List.mem_zipIdx_iff_getElem?.mp (List.mem_mergeSort.mp member)
  refine (sorted.and distinct).imp_of_mem fun {p q} memberP memberQ both => ?_
  obtain ⟨before, apart⟩ := both
  unfold List.zipIdxLE at before
  split at before
  · rename_i below
    refine ⟨below, fun above => ?_⟩
    rw [if_pos above, decide_eq_true_eq] at before
    obtain ⟨insideP, foundP⟩ := List.getElem?_eq_some_iff.mp (placed p memberP)
    obtain ⟨insideQ, foundQ⟩ := List.getElem?_eq_some_iff.mp (placed q memberQ)
    rw [← foundP, ← foundQ]
    exact List.pairwise_iff_getElem.mp ordered _ _ insideP insideQ (by omega)
  · cases before

/-! ### The order of rows -/

def SortKey.Before : Direction → SortKey → SortKey → Prop
  | .ascending, a, b => a.Below b
  | .descending, a, b => b.Below a

/-- Whether a row comes before another when sorted by columns, each in its direction: the first
column in which they differ decides, and if there is none, their places in the table do. -/
inductive Row.Precedes : List (Nat × Direction) → Row → Row → Prop
  | level {a b : Row} (earlier : a.id < b.id) : Precedes [] a b
  | decided {a b : Row} {v w : Value} {column : Nat} {direction : Direction}
      {rest : List (Nat × Direction)} (left : a.cells[column]? = some v)
      (right : b.cells[column]? = some w) (before : v.sortKey.Before direction w.sortKey) :
      Precedes ((column, direction) :: rest) a b
  | tied {a b : Row} {v w : Value} {column : Nat} {direction : Direction}
      {rest : List (Nat × Direction)} (left : a.cells[column]? = some v)
      (right : b.cells[column]? = some w) (same : v.sortKey.Level w.sortKey)
      (later : Precedes rest a b) : Precedes ((column, direction) :: rest) a b

def Row.LevelOn (keys : List (Nat × Direction)) (a b : Row) : Prop :=
  ∀ key ∈ keys, ∃ v w, a.cells[key.1]? = some v ∧ b.cells[key.1]? = some w ∧
    v.sortKey.Level w.sortKey

theorem SortKey.Before.not_level {direction : Direction} {a b : SortKey}
    (before : SortKey.Before direction a b) : ¬a.Level b := by
  intro level
  cases direction with
  | ascending =>
    rcases before with less | less | _ | _ | _ <;> rcases level with same | same | _
    · exact absurd (less.symm.trans same) (by decide)
    · exact absurd (less.symm.trans same) (by decide)
  | descending =>
    rcases before with less | less | _ | _ | _ <;> rcases level.symm with same | same | _
    · exact absurd (less.symm.trans same) (by decide)
    · exact absurd (less.symm.trans same) (by decide)

theorem Row.Precedes.of_levelOn {earlier rest : List (Nat × Direction)} {a b : Row}
    (precedes : Row.Precedes (earlier ++ rest) a b) (level : Row.LevelOn earlier a b) :
    Row.Precedes rest a b := by
  induction earlier with
  | nil => exact precedes
  | cons key earlier ih =>
    obtain ⟨v, w, left, right, same⟩ := level key List.mem_cons_self
    cases precedes with
    | decided left' right' before =>
      obtain rfl := Option.some.inj (left.symm.trans left')
      obtain rfl := Option.some.inj (right.symm.trans right')
      exact absurd same before.not_level
    | tied _ _ _ later => exact ih later fun key member => level key (List.mem_cons_of_mem _ member)

/-- Whether of two rows in this order, the missing values come last in each ascending column and
first in each descending one, among rows that are level in the columns before it. -/
def Row.PlacesNulls (keys : List (Nat × Direction)) (a b : Row) : Prop :=
  ∀ earlier column direction later, keys = earlier ++ (column, direction) :: later →
    Row.LevelOn earlier a b →
      match direction with
      | .ascending => a.cells[column]? = some .null → b.cells[column]? = some .null
      | .descending => b.cells[column]? = some .null → a.cells[column]? = some .null

theorem Value.eq_null_of_sortKey {v : Value} (missing : v.sortKey = .null) : v = .null := by
  cases v <;> simp_all [sortKey, number?]

theorem Row.Precedes.placesNulls {keys : List (Nat × Direction)} {a b : Row}
    (precedes : Row.Precedes keys a b) : Row.PlacesNulls keys a b := by
  rintro earlier column direction later rfl level
  -- Nothing comes after what is missing, and only what is missing is level with it.
  cases precedes.of_levelOn level with
  | decided left right before =>
    cases direction with
    | ascending =>
      intro missing
      obtain rfl := Option.some.inj (left.symm.trans missing)
      cases before
    | descending =>
      intro missing
      obtain rfl := Option.some.inj (right.symm.trans missing)
      cases before
  | @tied _ _ v w _ _ _ left right same _ =>
    have both : v = .null ↔ w = .null := by
      constructor
      · rintro rfl
        generalize other : w.sortKey = key at same
        cases same
        exact Value.eq_null_of_sortKey other
      · rintro rfl
        generalize other : v.sortKey = key at same
        cases same
        exact Value.eq_null_of_sortKey other
    cases direction with
    | ascending =>
      intro missing
      rw [right, both.mp (Option.some.inj (left.symm.trans missing))]
    | descending =>
      intro missing
      rw [left, both.mpr (Option.some.inj (right.symm.trans missing))]

/-- Whether no cell of a row in a column is a number that is none. -/
def Row.IsComparable (column : Nat) (row : Row) : Prop :=
  ∀ object, row.cells[column]? ≠ some (.real (.nan object))

theorem Value.sortKey_isComparable {v : Value} (number : ∀ object, v ≠ .real (.nan object)) :
    v.sortKey.isComparable := by
  cases v with
  | real x =>
    cases x with
    | nan object => exact absurd rfl (number object)
    | infinite negative => cases negative <;> rfl
    | finite negative m e => rfl
  | _ => rfl

def SortKey.leIn : Direction → SortKey → SortKey → Bool
  | .ascending, a, b => a.le b
  | .descending, a, b => b.le a

theorem SortKey.leIn_total (direction : Direction) (a b : SortKey) :
    (SortKey.leIn direction a b || SortKey.leIn direction b a) = true := by
  cases direction
  · exact SortKey.le_total a b
  · exact SortKey.le_total b a

theorem SortKey.leIn_trans {direction : Direction} {a b c : SortKey}
    (first : SortKey.leIn direction a b = true) (second : SortKey.leIn direction b c = true) :
    SortKey.leIn direction a c = true := by
  cases direction
  · exact SortKey.le_trans first second
  · exact SortKey.le_trans second first

theorem SortKey.leIn_eq_not_ltIn {direction : Direction} {a b : SortKey} (left : a.isComparable)
    (right : b.isComparable) : SortKey.leIn direction a b = !SortKey.ltIn direction b a := by
  cases direction
  · exact le_eq_not_lt left right
  · exact le_eq_not_lt right left

theorem sortBy_perm {α : Type} (direction : Direction) (key : α → SortKey) (items : List α) :
    (sortBy direction key items).Perm items := by
  unfold sortBy
  split
  · exact List.mergeSort_perm _ _
  · cases direction with
    | ascending => exact Sorting.sort_perm _
    | descending =>
      exact (List.reverse_perm _).trans ((Sorting.sort_perm _).trans (List.reverse_perm _))

theorem sortBy_eq_mergeSort {α : Type} {direction : Direction} {key : α → SortKey}
    {items : List α} (comparable : ∀ a ∈ items, (key a).isComparable) :
    sortBy direction key items =
      items.mergeSort fun a b => SortKey.leIn direction (key a) (key b) := by
  rw [sortBy, if_pos (List.all_eq_true.mpr comparable)]
  have same := List.map_mergeSort (f := id)
    (r := fun a b => !SortKey.ltIn direction (key b) (key a))
    (s := fun a b => SortKey.leIn direction (key a) (key b)) fun a memberA b memberB =>
      (SortKey.leIn_eq_not_ltIn (comparable a memberA) (comparable b memberB)).symm
  simpa using same

theorem sortBy_stable {α : Type} (direction : Direction) (key : α → SortKey) {R : α → α → Prop}
    {items : List α} (comparable : ∀ a ∈ items, (key a).isComparable)
    (ordered : items.Pairwise R) :
    (sortBy direction key items).Pairwise fun a b => SortKey.leIn direction (key a) (key b) = true ∧
      (SortKey.leIn direction (key b) (key a) = true → R a b) := by
  rw [sortBy_eq_mergeSort comparable]
  apply pairwise_mergeSort_stable _ _ ordered
  · intro a b c first second
    exact SortKey.leIn_trans first second
  · intro a b
    exact SortKey.leIn_total direction (key a) (key b)

theorem SortKey.before_of_leIn {direction : Direction} {a b : SortKey} (left : a.isComparable)
    (right : b.isComparable) (below : SortKey.leIn direction a b = true)
    (apart : ¬SortKey.leIn direction b a = true) : SortKey.Before direction a b := by
  cases direction
  · exact (SortKey.below_iff left right).mpr ⟨below, apart⟩
  · exact (SortKey.below_iff right left).mpr ⟨below, apart⟩

theorem SortKey.level_of_leIn {direction : Direction} {a b : SortKey} (left : a.isComparable)
    (right : b.isComparable) (below : SortKey.leIn direction a b = true)
    (above : SortKey.leIn direction b a = true) : a.Level b := by
  cases direction
  · exact (SortKey.level_iff left right).mpr ⟨below, above⟩
  · exact (SortKey.level_iff left right).mpr ⟨above, below⟩

namespace Execution

variable {column : Nat} {direction : Direction} {rows sorted : List Row}

/-! ### One column -/

theorem sortRows_perm (run : sortRows column direction rows = .ok sorted) : sorted.Perm rows := by
  obtain ⟨keyed, read, ⟨⟩⟩ := bind_ok_iff.mp run
  obtain ⟨rfl, -⟩ := mapM_paired_ok_iff.mp read
  exact (sortBy_perm direction Prod.fst keyed).map Prod.snd

theorem sortRows_succeeds (inside : ∀ row ∈ rows, column < row.cells.length) :
    SucceedsIf (∀ row ∈ rows, row.HasKey column) (.overlong .integer)
      (sortRows column direction rows) := by
  refine .bind (.mapM fun row member => ?_) fun keyed _ => .inl ⟨_, rfl⟩
  refine .bind ?_ fun key _ => .inl ⟨_, rfl⟩
  exact (Row.key_succeeds (inside row member)).of_imp fun each => each row member

theorem sortRows_precedes {rest : List (Nat × Direction)}
    (numbers : ∀ row ∈ rows, row.IsComparable column) (ordered : rows.Pairwise (Row.Precedes rest))
    (run : sortRows column direction rows = .ok sorted) :
    sorted.Pairwise (Row.Precedes ((column, direction) :: rest)) := by
  obtain ⟨keyed, read, ⟨⟩⟩ := bind_ok_iff.mp run
  obtain ⟨rfl, keys⟩ := mapM_paired_ok_iff.mp read
  rw [List.pairwise_map] at ordered ⊢
  have keyOf : ∀ entry ∈ keyed, ∃ v, entry.2.cells[column]? = some v ∧ entry.1 = v.sortKey ∧
      entry.1.isComparable := by
    intro entry member
    obtain ⟨v, found, key⟩ := Row.key_ok_iff.mp (keys entry member)
    have same := Value.sortKey?_ok key
    refine ⟨v, found, same, same ▸ Value.sortKey_isComparable ?_⟩
    rintro object rfl
    exact numbers entry.2 (List.mem_map_of_mem member) object found
  have comparable : ∀ entry ∈ keyed, entry.1.isComparable := fun entry member =>
    (keyOf entry member).choose_spec.2.2
  have permuted := sortBy_perm direction Prod.fst keyed
  refine (sortBy_stable direction Prod.fst comparable ordered).imp_of_mem
    fun {a b} memberA memberB both => ?_
  obtain ⟨v, left, keyA, comparableA⟩ := keyOf a (permuted.mem_iff.mp memberA)
  obtain ⟨w, right, keyB, comparableB⟩ := keyOf b (permuted.mem_iff.mp memberB)
  obtain ⟨below, within⟩ := both
  by_cases above : SortKey.leIn direction b.1 a.1 = true
  · have same := SortKey.level_of_leIn comparableA comparableB below above
    exact .tied left right (keyA ▸ keyB ▸ same) (within above)
  · have before := SortKey.before_of_leIn comparableA comparableB below above
    exact .decided left right (keyA ▸ keyB ▸ before)

/-! ### All columns -/

variable {keys : List (Nat × Direction)}

theorem orderRows_perm (run : orderRows keys rows = .ok sorted) : sorted.Perm rows := by
  induction keys generalizing sorted with
  | nil =>
    cases run
    exact .refl _
  | cons key keys ih =>
    obtain ⟨between, first, last⟩ := bind_ok_iff.mp run
    exact (sortRows_perm last).trans (ih first)

theorem orderRows_succeeds (inside : ∀ key ∈ keys, ∀ row ∈ rows, key.1 < row.cells.length) :
    SucceedsIf (∀ key ∈ keys, ∀ row ∈ rows, row.HasKey key.1) (.overlong .integer)
      (orderRows keys rows) := by
  induction keys with
  | nil => exact .inl ⟨rows, rfl⟩
  | cons key keys ih =>
    obtain ⟨column, direction⟩ := key
    have others := ih fun key member => inside key (List.mem_cons_of_mem _ member)
    refine (others.of_imp fun each key member => each key (List.mem_cons_of_mem _ member)).bind
      fun between first => ?_
    have same : ∀ {row}, row ∈ between ↔ row ∈ rows := (orderRows_perm first).mem_iff
    have columnInside : ∀ row ∈ between, column < row.cells.length := fun row member =>
      inside (column, direction) List.mem_cons_self row (same.mp member)
    exact (sortRows_succeeds columnInside).of_imp fun each row member =>
      each (column, direction) List.mem_cons_self row (same.mp member)

theorem orderRows_precedes (ordered : rows.Pairwise fun a b => a.id < b.id)
    (numbers : ∀ key ∈ keys, ∀ row ∈ rows, row.IsComparable key.1)
    (run : orderRows keys rows = .ok sorted) : sorted.Pairwise (Row.Precedes keys) := by
  induction keys generalizing sorted with
  | nil =>
    cases run
    exact ordered.imp fun earlier => .level earlier
  | cons key keys ih =>
    obtain ⟨column, direction⟩ := key
    obtain ⟨between, first, last⟩ := bind_ok_iff.mp run
    have within := ih (fun key member => numbers key (List.mem_cons_of_mem _ member)) first
    have columnNumbers : ∀ row ∈ between, row.IsComparable column := fun row member =>
      numbers (column, direction) List.mem_cons_self row ((orderRows_perm first).mem_iff.mp member)
    exact sortRows_precedes columnNumbers within last

end Execution

end SqlConsole
