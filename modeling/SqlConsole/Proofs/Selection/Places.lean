import SqlConsole.Selection.Plan
import SqlConsole.Proofs.Result
import SqlConsole.Proofs.Text.Case
import Mathlib.Data.List.TakeDrop

/-!
# Places of references

A reference without a point is the name of a column, and one with a point is a qualifier and a name
(`Spells`). The name stands for the column that has exactly this name, or for the first one that has
it in another case (`IsPlace`). A selection is planned exactly if all its references have a place,
with these places (`ofTable_eq_ok_iff`).
-/

namespace SqlConsole

theorem Table.columnIndex?_of_getElem? {table : Table} {index : Nat} {name : Text}
    (found : table.columns[index]? = some name) : table.columnIndex? name = some index := by
  obtain ⟨inside, rfl⟩ := List.getElem?_eq_some_iff.mp found
  refine List.idxOf?_eq_some_iff.mpr ⟨inside, rfl, fun earlier below => ?_⟩
  exact List.pairwise_iff_getElem.mp table.columns_distinct _ _ _ _ below

namespace Plan

variable {selection : Selection} {table : Table} {reference name qualifier : Text} {index : Nat}
  {plan : Plan}

/-! ### What references stand for -/

/-- The name in a reference: all of it if it has no point, otherwise what follows a qualifier. -/
inductive Spells (selection : Selection) : Text → Text → Prop
  | plain {name : Text} (pointless : .char '.' ∉ name) : Spells selection name name
  | qualified {qualifier name : Text} (qualifies : isQualifier selection qualifier = true)
      (pointless : .char '.' ∉ qualifier) : Spells selection (qualifier ++ .char '.' :: name) name

/-- Where the column of a name stands: the column of exactly this name, or if there is none, the
first column of this name in another case. -/
inductive IsPlace (table : Table) (name : Text) : Nat → Prop
  | exact {index : Nat} (named : table.columns[index]? = some name) : IsPlace table name index
  | otherCase {index : Nat} {column : Text} (absent : name ∉ table.columns)
      (found : table.columns[index]? = some column) (alike : column.lower = name.lower)
      (first : ∀ earlier < index, ∀ other, table.columns[earlier]? = some other →
        other.lower ≠ name.lower) : IsPlace table name index

/-- Whether a reference has a name whose column stands at a place. -/
def Names (selection : Selection) (table : Table) (reference : Text) (index : Nat) : Prop :=
  ∃ name, Spells selection reference name ∧ IsPlace table name index

theorem columnPlace?_eq_some_iff :
    columnPlace? table name = some index ↔ IsPlace table name index := by
  unfold columnPlace?
  cases exact : table.columnIndex? name with
  | some place =>
    obtain ⟨inside, named, -⟩ := List.idxOf?_eq_some_iff.mp exact
    constructor
    · rintro ⟨⟩
      exact .exact (List.getElem?_eq_some_iff.mpr ⟨inside, named⟩)
    · intro stands
      cases stands with
      | exact named => exact exact.symm.trans (Table.columnIndex?_of_getElem? named)
      | otherCase absent => exact absurd (named ▸ List.getElem_mem inside) absent
  | none =>
    have absent : name ∉ table.columns := List.idxOf?_eq_none_iff.mp exact
    dsimp only
    rw [List.findIdx?_eq_some_iff_getElem]
    constructor
    · rintro ⟨inside, alike, first⟩
      refine .otherCase absent (List.getElem?_eq_getElem inside) (by simpa using alike) ?_
      intro earlier before other found
      obtain ⟨_, rfl⟩ := List.getElem?_eq_some_iff.mp found
      simpa using first earlier before
    · intro stands
      cases stands with
      | exact named => exact absurd (List.mem_of_getElem? named) absent
      | otherCase _ found alike first =>
        obtain ⟨inside, rfl⟩ := List.getElem?_eq_some_iff.mp found
        refine ⟨inside, by simpa using alike, fun earlier before => ?_⟩
        simpa using first earlier before _ (List.getElem?_eq_getElem (before.trans inside))

theorem place_eq_ok_iff :
    resolve.place table reference name = .ok index ↔ IsPlace table name index := by
  rw [← columnPlace?_eq_some_iff, resolve.place]
  cases columnPlace? table name <;> simp

theorem ne_point_of_not_mem {t : Text} (pointless : .char '.' ∉ t) :
    ∀ c ∈ t, (c != .char '.') = true := by
  intro c member
  rw [bne_iff_ne]
  rintro rfl
  exact pointless member

theorem cutReference_of_plain {name : Text} (plain : .char '.' ∉ name) :
    cutReference name = (none, name) := by
  unfold cutReference
  rw [List.span_eq_takeWhile_dropWhile,
    List.dropWhile_eq_nil_iff.mpr (ne_point_of_not_mem plain)]

theorem cutReference_of_qualified (pointless : .char '.' ∉ qualifier) (name : Text) :
    cutReference (qualifier ++ .char '.' :: name) = (some qualifier, name) := by
  have whole := ne_point_of_not_mem pointless
  unfold cutReference
  rw [List.span_eq_takeWhile_dropWhile, List.takeWhile_append_of_pos whole,
    List.dropWhile_append_of_pos whole]
  simp

theorem cutReference_cases (reference : Text) :
    (.char '.' ∉ reference ∧ cutReference reference = (none, reference)) ∨
      ∃ qualifier name, .char '.' ∉ qualifier ∧ reference = qualifier ++ .char '.' :: name ∧
        cutReference reference = (some qualifier, name) := by
  by_cases pointed : .char '.' ∈ reference
  · obtain ⟨qualifier, name, rfl, pointless⟩ := List.eq_append_cons_of_mem pointed
    exact .inr ⟨qualifier, name, pointless, rfl, cutReference_of_qualified pointless name⟩
  · exact .inl ⟨pointed, cutReference_of_plain pointed⟩

theorem spells_iff : Spells selection reference name ↔
    cutReference reference = (none, name) ∨
      ∃ qualifier, cutReference reference = (some qualifier, name) ∧
        isQualifier selection qualifier = true := by
  constructor
  · intro spells
    cases spells with
    | plain pointless => exact .inl (cutReference_of_plain pointless)
    | qualified qualifies pointless =>
      exact .inr ⟨_, cutReference_of_qualified pointless _, qualifies⟩
  · intro cut
    rcases cutReference_cases reference with ⟨pointless, whole⟩ | ⟨q, n, pointless, rfl, parts⟩
    · obtain rfl : reference = name := by simpa [whole] using cut
      exact .plain pointless
    · obtain ⟨rfl, qualifies⟩ : n = name ∧ isQualifier selection q = true := by
        simpa [parts] using cut
      exact .qualified qualifies pointless

theorem resolve_eq_ok_iff :
    resolve selection table reference = .ok index ↔ Names selection table reference index := by
  simp only [Names, spells_iff]
  unfold resolve
  rcases cutReference reference with ⟨_ | qualifier, name⟩
  · simp [place_eq_ok_iff]
  · by_cases qualifies : isQualifier selection qualifier = true
    · simp [qualifies, place_eq_ok_iff]
    · simp [qualifies]

theorem Names.lt_length (names : Names selection table reference index) :
    index < table.columns.length := by
  obtain ⟨name, -, stands⟩ := names
  cases stands with
  | exact found | otherCase _ found => exact (List.getElem?_eq_some_iff.mp found).1

/-! ### Columns of the answer -/

def IsStar (selection : Selection) (column : Text) : Prop :=
  column = "*" ∨ ∃ qualifier, isQualifier selection qualifier = true ∧ column = qualifier ++ ".*"

theorem isStar_iff {column : Text} : isStar selection column = true ↔ IsStar selection column := by
  unfold isStar IsStar
  constructor
  · intro star
    split at star
    · rename_i reversed
      exact .inl (List.reverse_injective reversed)
    · rename_i qualifier reversed
      refine .inr ⟨qualifier.reverse, star, ?_⟩
      rw [← List.reverse_reverse column, reversed]
      simp [Text.ofString]
    · cases star
  · rintro (rfl | ⟨qualifier, qualifies, rfl⟩)
    · rfl
    · simpa [Text.ofString] using qualifies

/-- The places that a column of a selection stands for: all of them if it is a star, otherwise the
one that it names. -/
inductive Lists (selection : Selection) (table : Table) : Text → List Nat → Prop
  | all {column : Text} (star : IsStar selection column) :
      Lists selection table column (List.range table.columns.length)
  | one {column : Text} {index : Nat} (starless : ¬IsStar selection column)
      (names : Names selection table column index) : Lists selection table column [index]

theorem expand_eq_ok_iff {column : Text} {places : List Nat} :
    expand selection table column = .ok places ↔ Lists selection table column places := by
  unfold expand
  by_cases star : isStar selection column = true
  · rw [if_pos star]
    have star := isStar_iff.mp star
    constructor
    · rintro ⟨⟩
      exact .all star
    · intro lists
      cases lists with
      | all => rfl
      | one starless => exact absurd star starless
  · rw [if_neg star, bind_ok_iff]
    have starless := mt isStar_iff.mpr star
    constructor
    · rintro ⟨index, resolved, ⟨⟩⟩
      exact .one starless (resolve_eq_ok_iff.mp resolved)
    · intro lists
      cases lists with
      | all star => exact absurd star starless
      | one _ names => exact ⟨_, resolve_eq_ok_iff.mpr names, rfl⟩

/-! ### Plans -/

/-- Whether a plan is that of a selection: each reference of the selection is the place that it
names, in the order of the references, and all else is as the selection has it. -/
structure Follows (plan : Plan) (selection : Selection) (table : Table) : Prop where
  source : plan.table = table
  columns : ∃ places, List.Forall₂ (Lists selection table) selection.columns places ∧
    plan.columns = places.flatten
  filter : Option.Rel (fun condition filter =>
    Names selection table condition.column filter.index ∧
      filter.operator = condition.operator ∧ filter.literal = condition.literal)
    selection.condition plan.filter
  groupBy : List.Forall₂ (Names selection table) selection.groupBy plan.groupBy
  orderBy : List.Forall₂ (fun item key =>
    Names selection table item.column key.1 ∧ key.2 = item.direction)
    selection.orderBy plan.orderBy
  limit : plan.limit = selection.limit
  offset : plan.offset = selection.offset

theorem resolveCondition_eq_ok_iff {condition : Condition} {filter : Filter} :
    resolveCondition selection table condition = .ok filter ↔
      Names selection table condition.column filter.index ∧
        filter.operator = condition.operator ∧ filter.literal = condition.literal := by
  unfold resolveCondition
  rw [bind_ok_iff]
  constructor
  · rintro ⟨index, resolved, ⟨⟩⟩
    exact ⟨resolve_eq_ok_iff.mp resolved, rfl, rfl⟩
  · rintro ⟨names, operator, literal⟩
    refine ⟨filter.index, resolve_eq_ok_iff.mpr names, ?_⟩
    rw [← operator, ← literal]
    rfl

theorem resolveItem_eq_ok_iff {item : SortItem} {key : Nat × Direction} :
    (do return (← resolve selection table item.column, item.direction)) = .ok key ↔
      Names selection table item.column key.1 ∧ key.2 = item.direction := by
  rw [bind_ok_iff]
  constructor
  · rintro ⟨index, resolved, ⟨⟩⟩
    exact ⟨resolve_eq_ok_iff.mp resolved, rfl⟩
  · rintro ⟨names, direction⟩
    exact ⟨key.1, resolve_eq_ok_iff.mpr names, by rw [← direction]; rfl⟩

/-- A selection has a plan from a table exactly if all its references name places, and then these
places are those of the plan. -/
theorem ofTable_eq_ok_iff : ofTable selection table = .ok plan ↔ plan.Follows selection table := by
  unfold ofTable
  constructor
  · intro planned
    obtain ⟨columns, listed, planned⟩ := bind_ok_iff.mp planned
    obtain ⟨filter, filtered, planned⟩ := bind_ok_iff.mp planned
    obtain ⟨groupBy, grouped, planned⟩ := bind_ok_iff.mp planned
    obtain ⟨orderBy, ordered, ⟨⟩⟩ := bind_ok_iff.mp planned
    rw [mapM_ok_iff] at listed grouped ordered
    rw [option_mapM_ok_iff fun _ _ => resolveCondition_eq_ok_iff] at filtered
    exact ⟨rfl, ⟨columns, listed.imp fun _ _ => expand_eq_ok_iff.mp, rfl⟩,
      filtered, grouped.imp fun _ _ => resolve_eq_ok_iff.mp,
      ordered.imp fun _ _ => resolveItem_eq_ok_iff.mp, rfl, rfl⟩
  · rintro ⟨rfl, ⟨columns, listed, flat⟩, filtered, grouped, ordered, limit, offset⟩
    refine bind_ok_iff.mpr ⟨columns, mapM_ok_iff.mpr ?_, bind_ok_iff.mpr ⟨plan.filter, ?_,
      bind_ok_iff.mpr ⟨plan.groupBy, mapM_ok_iff.mpr ?_, bind_ok_iff.mpr ⟨plan.orderBy,
        mapM_ok_iff.mpr ?_, ?_⟩⟩⟩⟩
    · exact listed.imp fun _ _ => expand_eq_ok_iff.mpr
    · exact (option_mapM_ok_iff fun _ _ => resolveCondition_eq_ok_iff).mpr filtered
    · exact grouped.imp fun _ _ => resolve_eq_ok_iff.mpr
    · exact ordered.imp fun _ _ => resolveItem_eq_ok_iff.mpr
    · rw [← flat, ← limit, ← offset]
      rfl

def places (plan : Plan) : List Nat :=
  plan.columns ++ ((plan.filter.map Filter.index).toList ++
    (plan.groupBy ++ plan.orderBy.map Prod.fst))

theorem Lists.lt_length {column : Text} {places : List Nat}
    (lists : Lists selection table column places) :
    ∀ index ∈ places, index < table.columns.length := by
  cases lists with
  | all => exact fun index => List.mem_range.mp
  | one _ names => simpa using names.lt_length

theorem Follows.lt_length (follows : plan.Follows selection table) :
    ∀ index ∈ plan.places, index < table.columns.length := by
  obtain ⟨-, ⟨places, listed, flat⟩, filtered, grouped, ordered, -, -⟩ := follows
  simp only [Plan.places, List.forall_mem_append, List.forall_mem_map, flat]
  refine ⟨?_, ?_, forall_mem_of_forall₂ (fun _ _ names => names.lt_length) grouped,
    forall_mem_of_forall₂ (fun _ _ names => names.1.lt_length) ordered⟩
  · intro index member
    obtain ⟨run, present, inside⟩ := List.mem_flatten.mp member
    exact forall_mem_of_forall₂ (fun _ _ lists => lists.lt_length) listed run present index inside
  · intro index member
    obtain ⟨filter, present, rfl⟩ := Option.map_eq_some_iff.mp (Option.mem_toList.mp member)
    rw [present] at filtered
    generalize selection.condition = given at filtered
    cases filtered with
    | some names => exact names.1.lt_length

/-! ### References that name one column -/

theorem Spells.cut_snd (spells : Spells selection reference name) :
    (cutReference reference).2 = name := by
  rcases spells_iff.mp spells with whole | ⟨_, parts, -⟩
  · rw [whole]
  · rw [parts]

theorem Spells.eq {other : Text} (spells : Spells selection reference name)
    (again : Spells selection reference other) : other = name :=
  again.cut_snd.symm.trans spells.cut_snd

theorem Names.eq {other : Nat} (names : Names selection table reference index)
    (again : Names selection table reference other) : other = index :=
  Except.ok.inj ((resolve_eq_ok_iff.mpr again).symm.trans (resolve_eq_ok_iff.mpr names))

theorem Spells.not_isStar
    (pointless : ∀ qualifier, isQualifier selection qualifier = true → .char '.' ∉ qualifier)
    (spells : Spells selection reference name) (starless : name ≠ "*") :
    ¬IsStar selection reference := by
  rintro (rfl | ⟨q, qualifies, rfl⟩)
  · refine starless (Spells.eq (.plain ?_) spells)
    decide
  · refine starless (Spells.eq ?_ spells)
    have spelt := @Spells.qualified selection q "*" qualifies (pointless q qualifies)
    simpa [Text.ofString] using spelt

/-- A name with a point in it is not the name of its own column: what stands before the point is
read as a qualifier. -/
theorem not_names_of_pointed (pointed : .char '.' ∈ name)
    (named : table.columns[index]? = some name) : ¬Names selection table name index := by
  rintro ⟨short, spells, stands⟩
  obtain ⟨q, n, pointless, rfl⟩ : ∃ q n : Text, .char '.' ∉ q ∧ name = q ++ .char '.' :: n := by
    obtain ⟨q, n, rfl, pointless⟩ := List.eq_append_cons_of_mem pointed
    exact ⟨q, n, pointless, rfl⟩
  obtain rfl : n = short := by
    have cut := spells.cut_snd
    rwa [cutReference_of_qualified pointless] at cut
  cases stands with
  | exact found =>
    have lengths := congrArg List.length (Option.some.inj (found.symm.trans named))
    simp at lengths
    omega
  | otherCase _ found alike _ =>
    obtain rfl := Option.some.inj (found.symm.trans named)
    have lengths := congrArg List.length alike
    simp only [Text.lower, Text.length_lowerFrom, List.map_append, List.map_cons, List.sum_append,
      List.sum_cons] at lengths
    have point : Text.lowerLength (.char '.') = 1 := by decide
    omega

end Plan

end SqlConsole
