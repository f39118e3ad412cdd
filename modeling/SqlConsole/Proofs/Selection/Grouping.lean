import SqlConsole.Proofs.Selection.Running
import Mathlib.Data.List.Pairwise

/-!
# Groups

Rows are in one group if they share the keys of the columns that they are grouped by
(`Row.SharesKeys`). Grouping keeps the rows before which there is none of their group
(`Execution.groupRows_areFirsts`), so a plan that groups has the first row of each group among those
that satisfy its condition (`Plan.run_groups`).
-/

namespace SqlConsole

/-! ### Keys that are shared -/

theorem SortKey.Level.trans {a b c : SortKey} (first : a.Level b) (second : b.Level c) :
    a.Level c := by
  rcases first with same | same | _ <;> rcases second with other | other | _
  · obtain ⟨left, -, placeA⟩ := Number.compare?_eq_eq_iff.mp same
    obtain ⟨-, right, placeB⟩ := Number.compare?_eq_eq_iff.mp other
    exact .numbers (Number.compare?_eq_eq_iff.mpr ⟨left, right, placeA.trans placeB⟩)
  · obtain rfl := Text.compare_eq_eq_iff.mp same
    exact .texts other
  · exact .nulls

theorem SortKey.Level.refl {a : SortKey} (comparable : a.isComparable) : a.Level a :=
  (level_iff comparable comparable).mpr (by simpa using le_total a a)

theorem SortKey.same_iff {a b : SortKey} : a.same b = true ↔ a.Level b ∨ a = b := by
  constructor
  · intro same
    cases a <;> cases b <;> simp only [SortKey.same, Bool.false_eq_true, Bool.or_eq_true,
      beq_iff_eq] at same
    · exact same.imp (fun same => .numbers (by simpa [Number.same] using same)) (congrArg _)
    · exact .inr (congrArg _ same)
    · exact .inr rfl
  · rintro ((same | same | _) | rfl)
    · simp [SortKey.same, Number.same, same]
    · simpa [SortKey.same] using Text.compare_eq_eq_iff.mp same
    · rfl
    · cases a <;> simp [SortKey.same]

theorem SortKey.same_iff_level {a b : SortKey} (comparable : a.isComparable) :
    a.same b = true ↔ a.Level b := by
  rw [same_iff, or_iff_left_of_imp]
  rintro rfl
  exact .refl comparable

theorem SortKey.same_trans {a b c : SortKey} (first : a.same b = true) (second : b.same c = true) :
    a.same c = true := by
  rw [same_iff] at first second ⊢
  rcases first with first | rfl
  · rcases second with second | rfl
    · exact .inl (first.trans second)
    · exact .inl first
  · exact second

namespace Row

def SharesKeys (columns : List Nat) (a b : Row) : Prop :=
  ∀ index ∈ columns, ∃ v w, a.cells[index]? = some v ∧ b.cells[index]? = some w ∧
    v.sortKey.Level w.sortKey

variable {columns : List Nat} {a b c : Row}

theorem SharesKeys.symm (shared : a.SharesKeys columns b) : b.SharesKeys columns a := by
  intro index member
  obtain ⟨v, w, left, right, level⟩ := shared index member
  exact ⟨w, v, right, left, level.symm⟩

theorem SharesKeys.trans (first : a.SharesKeys columns b) (second : b.SharesKeys columns c) :
    a.SharesKeys columns c := by
  intro index member
  obtain ⟨v, w, left, middle, level⟩ := first index member
  obtain ⟨w', u, middle', right, level'⟩ := second index member
  obtain rfl := Option.some.inj (middle.symm.trans middle')
  exact ⟨v, u, left, right, level.trans level'⟩

theorem sameKeys_iff_sharesKeys {keysA keysB : List SortKey}
    (left : columns.mapM a.key = .ok keysA) (right : columns.mapM b.key = .ok keysB)
    (numbersA : ∀ index ∈ columns, a.IsComparable index)
    (numbersB : ∀ index ∈ columns, b.IsComparable index) :
    Execution.sameKeys keysA keysB = true ↔ a.SharesKeys columns b := by
  rw [mapM_ok_iff] at left right
  induction left generalizing keysB with
  | nil =>
    cases right
    simp [Execution.sameKeys, SharesKeys]
  | @cons index keyA columns keysA firstA _ ih =>
    obtain ⟨keyB, keysB, firstB, others, rfl⟩ := List.forall₂_cons_left_iff.mp right
    obtain ⟨numberA, numbersA⟩ := List.forall_mem_cons.mp numbersA
    obtain ⟨numberB, numbersB⟩ := List.forall_mem_cons.mp numbersB
    obtain ⟨v, foundA, readA⟩ := key_ok_iff.mp firstA
    obtain ⟨w, foundB, readB⟩ := key_ok_iff.mp firstB
    obtain rfl := Value.sortKey?_ok readA
    obtain rfl := Value.sortKey?_ok readB
    have comparable := Value.sortKey_isComparable fun object nan => numberA object (nan ▸ foundA)
    rw [Execution.sameKeys, Bool.and_eq_true, SortKey.same_iff_level comparable,
      ih others numbersA numbersB, SharesKeys, SharesKeys, List.forall_mem_cons]
    refine and_congr_left fun _ => ⟨fun level => ⟨v, w, foundA, foundB, level⟩, ?_⟩
    rintro ⟨v', w', foundA', foundB', level⟩
    rw [foundA] at foundA'
    rw [foundB] at foundB'
    cases foundA'
    cases foundB'
    exact level

end Row

namespace Execution

theorem sameKeys_trans {as bs cs : List SortKey} (first : sameKeys as bs = true)
    (second : sameKeys bs cs = true) : sameKeys as cs = true := by
  induction as generalizing bs cs with
  | nil =>
    cases bs with
    | nil => exact second
    | cons b bs => cases first
  | cons a as ih =>
    cases bs with
    | nil => cases first
    | cons b bs =>
      cases cs with
      | nil => cases second
      | cons c cs =>
        rw [sameKeys, Bool.and_eq_true] at first second ⊢
        exact ⟨SortKey.same_trans first.1 second.1, ih first.2 second.2⟩

/-! ### The rows that are kept -/

/-- Of the rows whose keys are not seen before, those are kept that come before all rows of the same
keys. -/
theorem mem_firstOfEach_iff {seen : List (List SortKey)} {keyed : List (List SortKey × Row)}
    {row : Row} (ordered : keyed.Pairwise fun a b => a.2.id < b.2.id) :
    row ∈ firstOfEach seen keyed ↔ ∃ keys, (keys, row) ∈ keyed ∧
      (∀ old ∈ seen, ¬sameKeys keys old = true) ∧
      ∀ earlier ∈ keyed, earlier.2.id < row.id → ¬sameKeys keys earlier.1 = true := by
  induction keyed generalizing seen with
  | nil => simp [firstOfEach]
  | cons entry keyed ih =>
    obtain ⟨first, head⟩ := entry
    obtain ⟨below, ordered⟩ := List.pairwise_cons.mp ordered
    have later : ∀ keys, (keys, row) ∈ keyed → head.id < row.id := fun keys => below (keys, row)
    rw [firstOfEach]
    -- A dropped head keeps no later row out by itself: a row with its keys also has those that were
    -- seen. A kept head has keys that are seen from there on.
    split
    · rename_i known
      obtain ⟨old, before, same⟩ := List.any_eq_true.mp known
      rw [ih ordered]
      constructor
      · rintro ⟨keys, member, unseen, apart⟩
        refine ⟨keys, List.mem_cons_of_mem _ member, unseen, List.forall_mem_cons.mpr ⟨?_, apart⟩⟩
        intro _ shared
        exact unseen old before (sameKeys_trans shared same)
      · rintro ⟨keys, member, unseen, apart⟩
        rcases List.mem_cons.mp member with ⟨⟨⟩⟩ | member
        · exact absurd same (unseen old before)
        · exact ⟨keys, member, unseen, (List.forall_mem_cons.mp apart).2⟩
    · rename_i unknown
      have fresh : ∀ old ∈ seen, ¬sameKeys first old = true := fun old before same =>
        unknown (List.any_eq_true.mpr ⟨old, before, same⟩)
      rw [List.mem_cons, ih ordered]
      constructor
      · rintro (rfl | ⟨keys, member, unseen, apart⟩)
        · refine ⟨first, List.mem_cons_self, fresh, List.forall_mem_cons.mpr ⟨?_, ?_⟩⟩
          · exact fun less => absurd less (Nat.lt_irrefl _)
          · exact fun earlier member less => absurd less (Nat.lt_asymm (below earlier member))
        · obtain ⟨other, unseen⟩ := List.forall_mem_cons.mp unseen
          exact ⟨keys, List.mem_cons_of_mem _ member, unseen,
            List.forall_mem_cons.mpr ⟨fun _ => other, apart⟩⟩
      · rintro ⟨keys, member, unseen, apart⟩
        obtain ⟨other, apart⟩ := List.forall_mem_cons.mp apart
        rcases List.mem_cons.mp member with ⟨⟨⟩⟩ | member
        · exact .inl rfl
        · exact .inr ⟨keys, member,
            List.forall_mem_cons.mpr ⟨other (later keys member), unseen⟩, apart⟩

end Execution

/-- Whether rows are the first ones of each group, in their order. -/
structure Row.AreFirsts (columns : List Nat) (rows firsts : List Row) : Prop where
  ordered : firsts.Pairwise fun a b => a.id < b.id
  mem_iff : ∀ row, row ∈ firsts ↔ row ∈ rows ∧
    ∀ earlier ∈ rows, earlier.id < row.id → ¬row.SharesKeys columns earlier

variable {columns : List Nat} {rows firsts : List Row}

namespace Row.AreFirsts

theorem subset (first : AreFirsts columns rows firsts) : ∀ row ∈ firsts, row ∈ rows :=
  fun row member => ((first.mem_iff row).mp member).1

theorem apart (first : AreFirsts columns rows firsts) :
    firsts.Pairwise fun a b => ¬a.SharesKeys columns b := by
  refine first.ordered.imp_of_mem fun {a b} memberA memberB less shared => ?_
  exact ((first.mem_iff b).mp memberB).2 a (first.subset a memberA) less shared.symm

theorem exists_of_mem (first : AreFirsts columns rows firsts) {row : Row} (member : row ∈ rows)
    (self : row.SharesKeys columns row) : ∃ head ∈ firsts, head.SharesKeys columns row := by
  by_cases earliest : ∀ earlier ∈ rows, earlier.id < row.id → ¬row.SharesKeys columns earlier
  · exact ⟨row, (first.mem_iff row).mpr ⟨member, earliest⟩, self⟩
  · push Not at earliest
    obtain ⟨earlier, before, less, shared⟩ := earliest
    obtain ⟨head, kept, same⟩ := first.exists_of_mem before (shared.symm.trans shared)
    exact ⟨head, kept, same.trans shared.symm⟩
termination_by row.id

theorem existsUnique_of_mem (first : AreFirsts columns rows firsts) {row : Row}
    (member : row ∈ rows) (self : row.SharesKeys columns row) :
    ∃! head, head ∈ firsts ∧ head.SharesKeys columns row := by
  obtain ⟨head, kept, same⟩ := first.exists_of_mem member self
  refine ⟨head, ⟨kept, same⟩, ?_⟩
  rintro other ⟨keptOther, sameOther⟩
  by_contra different
  have : Std.Symm fun a b : Row => ¬a.SharesKeys columns b :=
    ⟨fun _ _ apart shared => apart shared.symm⟩
  exact first.apart.forall keptOther kept different (sameOther.trans same.symm)

theorem again (first : AreFirsts columns rows firsts) : AreFirsts columns firsts firsts := by
  refine ⟨first.ordered, fun row => ⟨fun member => ⟨member, fun earlier before => ?_⟩, And.left⟩⟩
  exact ((first.mem_iff row).mp member).2 earlier (first.subset earlier before)

theorem unique {others : List Row} (first : AreFirsts columns rows firsts)
    (other : AreFirsts columns rows others) : firsts = others := by
  have nodup : ∀ {items : List Row}, (items.Pairwise fun a b => a.id < b.id) → items.Nodup :=
    fun ordered => ordered.imp fun less same => absurd (same ▸ less) (Nat.lt_irrefl _)
  have same : firsts.Perm others := (List.perm_ext_iff_of_nodup (nodup first.ordered)
    (nodup other.ordered)).mpr fun row => (first.mem_iff row).trans (other.mem_iff row).symm
  exact same.eq_of_pairwise (fun a b _ _ less more => absurd less (Nat.lt_asymm more))
    first.ordered other.ordered

end Row.AreFirsts

namespace Execution

theorem groupRows_eq_ok (grouped : columns ≠ []) (run : groupRows columns rows = .ok firsts) :
    ∃ keyed, keyed.map Prod.snd = rows ∧
      (∀ entry ∈ keyed, columns.mapM entry.2.key = .ok entry.1) ∧
      firsts = firstOfEach [] keyed := by
  unfold groupRows at run
  rw [if_neg (by simpa using grouped)] at run
  obtain ⟨keyed, read, ⟨⟩⟩ := bind_ok_iff.mp run
  obtain ⟨same, keys⟩ := mapM_paired_ok_iff.mp read
  exact ⟨keyed, same, keys, rfl⟩

theorem sharesKeys_self_of_groupRows (grouped : columns ≠ [])
    (numbers : ∀ row ∈ rows, ∀ index ∈ columns, row.IsComparable index)
    (run : groupRows columns rows = .ok firsts) : ∀ row ∈ rows, row.SharesKeys columns row := by
  obtain ⟨keyed, rfl, keys, -⟩ := groupRows_eq_ok grouped run
  refine List.forall_mem_map.mpr fun entry member index present => ?_
  obtain ⟨key, read⟩ := mapM_succeeds_iff.mp ⟨_, keys entry member⟩ index present
  obtain ⟨v, found, -⟩ := Row.key_ok_iff.mp read
  have number := numbers entry.2 (List.mem_map_of_mem member) index present
  exact ⟨v, v, found, found, .refl (Value.sortKey_isComparable fun object nan =>
    number object (nan ▸ found))⟩

theorem groupRows_areFirsts (grouped : columns ≠ [])
    (ordered : rows.Pairwise fun a b => a.id < b.id)
    (numbers : ∀ row ∈ rows, ∀ index ∈ columns, row.IsComparable index)
    (run : groupRows columns rows = .ok firsts) : Row.AreFirsts columns rows firsts := by
  refine ⟨ordered.sublist (groupRows_sublist run), fun row => ?_⟩
  obtain ⟨keyed, rfl, keys, rfl⟩ := groupRows_eq_ok grouped run
  rw [List.pairwise_map] at ordered
  have shares : ∀ a ∈ keyed, ∀ b ∈ keyed,
      sameKeys a.1 b.1 = true ↔ a.2.SharesKeys columns b.2 := fun a memberA b memberB =>
    Row.sameKeys_iff_sharesKeys (keys a memberA) (keys b memberB)
      (numbers a.2 (List.mem_map_of_mem memberA)) (numbers b.2 (List.mem_map_of_mem memberB))
  rw [mem_firstOfEach_iff ordered]
  constructor
  · rintro ⟨found, member, -, apart⟩
    refine ⟨List.mem_map_of_mem member, List.forall_mem_map.mpr fun earlier before less => ?_⟩
    rw [← shares _ member earlier before]
    exact apart earlier before less
  · rintro ⟨present, apart⟩
    obtain ⟨⟨found, row⟩, member, rfl⟩ := List.mem_map.mp present
    refine ⟨found, member, List.forall_mem_nil _, fun earlier before less => ?_⟩
    rw [shares (found, row) member earlier before]
    exact List.forall_mem_map.mp apart earlier before less

theorem groupRows_again (grouped : columns ≠ []) (ordered : rows.Pairwise fun a b => a.id < b.id)
    (numbers : ∀ row ∈ rows, ∀ index ∈ columns, row.IsComparable index)
    (run : groupRows columns rows = .ok firsts) : groupRows columns firsts = .ok firsts := by
  have first := groupRows_areFirsts grouped ordered numbers run
  obtain ⟨keyed, rfl, keys, -⟩ := groupRows_eq_ok grouped run
  have keyedFirsts : ∀ row ∈ firsts, ∃ keys, columns.mapM row.key = .ok keys := by
    intro row member
    obtain ⟨entry, present, rfl⟩ := List.mem_map.mp (first.subset row member)
    exact ⟨entry.1, keys entry present⟩
  obtain ⟨others, runAgain⟩ := exists_groupRows keyedFirsts
  have other := groupRows_areFirsts grouped first.ordered
    (fun row member => numbers row (first.subset row member)) runAgain
  rw [runAgain, other.unique first.again]

end Execution

/-! ### The rows of a plan -/

theorem Row.map_id_of_isProjection {out : List Row}
    (projected : List.Forall₂ (Row.IsProjection columns) rows out) :
    out.map Row.id = rows.map Row.id := by
  induction projected with
  | nil => rfl
  | cons first _ ih => rw [List.map_cons, List.map_cons, first.1, ih]

namespace Plan

/-- Without sorting and pages, the rows of a plan that groups are, in the order of the table, those
rows that satisfy its condition and before which no such row shares their keys, each with the cells
of the plan. So each group has just one of them, and grouping them again changes nothing. There are
such rows whenever the names of the plan are resolved, unless an integer has to be written that is
too long. -/
theorem run_groups (plan : Plan) (grouped : plan.groupBy ≠ []) (unsorted : plan.orderBy = [])
    (unlimited : plan.limit = none) (unskipped : plan.offset = none)
    (numbers : ∀ cells ∈ plan.table.rows, ∀ index ∈ plan.groupBy, ∀ object,
      cells[index]? ≠ some (.real (.nan object))) :
    (plan.IsResolved → SucceedsIf plan.IsWritable (.overlong .integer) plan.run) ∧
      ∀ out, plan.run = .ok out → ∃ firsts : List Row,
        List.Forall₂ (Row.IsProjection plan.columns) firsts out ∧
        out.Pairwise (fun a b => a.id < b.id) ∧
        (∀ row ∈ firsts, row ∈ plan.table.numberedRows ∧ plan.selects row = true) ∧
        (∀ row ∈ plan.table.numberedRows, plan.selects row = true →
          (row ∈ firsts ↔ ∀ earlier ∈ plan.table.numberedRows, plan.selects earlier = true →
            earlier.id < row.id → ¬row.SharesKeys plan.groupBy earlier)) ∧
        firsts.Pairwise (fun a b => ¬a.SharesKeys plan.groupBy b) ∧
        (∀ row ∈ plan.table.numberedRows, plan.selects row = true →
          ∃! head, head ∈ firsts ∧ head.SharesKeys plan.groupBy row) ∧
        Execution.groupRows plan.groupBy firsts = .ok firsts := by
  refine ⟨run_succeeds, fun out run => ?_⟩
  obtain ⟨firsts, sorted, groups, order, projected⟩ := steps_of_run run
  rw [unsorted] at order
  cases order
  rw [page_eq_self unlimited unskipped] at projected
  have ordered := plan.table.numberedRows_ordered.filter plan.selects
  have comparable : ∀ row ∈ plan.table.numberedRows.filter plan.selects,
      ∀ index ∈ plan.groupBy, row.IsComparable index := by
    intro row member index present
    have inTable := Table.mem_numberedRows.mp (List.mem_filter.mp member).1
    exact numbers row.cells (List.mem_of_getElem? inTable) index present
  have first := Execution.groupRows_areFirsts grouped ordered comparable groups
  have self := Execution.sharesKeys_self_of_groupRows grouped comparable groups
  refine ⟨firsts, projected, ?_, fun row member => List.mem_filter.mp (first.subset row member), ?_,
    first.apart, ?_, Execution.groupRows_again grouped ordered comparable groups⟩
  · rw [← List.pairwise_map (f := Row.id), Row.map_id_of_isProjection projected, List.pairwise_map]
    exact first.ordered
  · intro row inTable selected
    rw [first.mem_iff, and_iff_right (List.mem_filter.mpr ⟨inTable, selected⟩)]
    simp only [List.mem_filter, and_imp]
  · intro row inTable selected
    have member := List.mem_filter.mpr ⟨inTable, selected⟩
    exact first.existsUnique_of_mem member (self row member)

def two : Value := .real (.finite false 4503599627370496 (-51))

/-- Bills for nights of guests, some of whom are unknown. The number of nights is written in two
ways, and so is the name of one guest. -/
def bills : Table where
  name := "bills"
  columns := ["guest", "nights", "paid"]
  rows := [[.text "Ann", .integer 2, .bool false], [.text "Ann", two, .bool true],
    [.null, .integer 2, .bool true], [.text "Ann", .integer 2, .bool true],
    [.null, two, .bool true], [.text "True", .integer 2, .bool true],
    [.bool true, two, .bool true]]
  columns_distinct := by decide
  rows_aligned := by decide

def paidNights : Plan where
  table := bills
  columns := [1]
  filter := some ⟨2, .eq, .text "True"⟩
  groupBy := [0, 1]
  orderBy := []
  limit := none
  offset := none

theorem run_groups_paidNights :
    ∃ firsts : List Row,
      paidNights.run = .ok [⟨1, [two]⟩, ⟨2, [.integer 2]⟩, ⟨5, [.integer 2]⟩] ∧
      List.Forall₂ (Row.IsProjection [1]) firsts
        [⟨1, [two]⟩, ⟨2, [.integer 2]⟩, ⟨5, [.integer 2]⟩] ∧
      firsts.Pairwise (fun a b => ¬a.SharesKeys [0, 1] b) ∧
      Execution.groupRows [0, 1] firsts = .ok firsts := by
  have run : paidNights.run = .ok [⟨1, [two]⟩, ⟨2, [.integer 2]⟩, ⟨5, [.integer 2]⟩] := by
    decide +kernel
  have numbers : ∀ cells ∈ paidNights.table.rows, ∀ index ∈ paidNights.groupBy, ∀ object,
      cells[index]? ≠ some (.real (.nan object)) := by
    simp [paidNights, bills, two]
  obtain ⟨firsts, projected, -, -, -, apart, -, again⟩ :=
    (run_groups paidNights (by decide) rfl rfl rfl numbers).2 _ run
  exact ⟨firsts, run, projected, apart, again⟩

end Plan

end SqlConsole
