import SqlConsole.Statement.Query
import SqlConsole.Proofs.Query.Items

/-!
# Bodies of clauses

What the body of each clause must be, said of its tokens: a table with an alias (`IsSource`), a list
of columns to sort by (`SortsBy`), a count (`IsCount`). Reading a body succeeds exactly on these.
-/

namespace SqlConsole

namespace Query

variable {source : Text} {follow : Token} {body : List Token}

/-! ### The table -/

inductive IsSource : List Token → Text → Option Text → Prop
  | bare {t : Token} (table : t.kind = .identifier) : IsSource [t] t.value none
  | aliased {t u : Token} (table : t.kind = .identifier) (name : u.kind = .identifier) :
      IsSource [t, u] t.value (some u.value)
  | worded {t word u : Token} (table : t.kind = .identifier) (as : word.kind = .keyword .as)
      (name : u.kind = .identifier) : IsSource [t, word, u] t.value (some u.value)

theorem named_eq_ok_iff {t : Token} {ts : List Token} {tableAlias : Option Text} :
    tableAlias?.named t ts = .ok tableAlias ↔
      t.kind = .identifier ∧ ts = [] ∧ tableAlias = some t.value := by
  unfold tableAlias?.named
  split
  · simp_all
  · rename_i name
    cases ts with
    | nil => simp_all [eq_comm]
    | cons u us => simp

theorem source?_of_isSource {table : Text} {tableAlias : Option Text}
    (written : IsSource body table tableAlias) : source? follow body = .ok (table, tableAlias) := by
  cases written with
  | bare table => simp [source?, tableAlias?, table]
  | aliased table name => simp [source?, tableAlias?, tableAlias?.named, table, name]
  | worded table as name => simp [source?, tableAlias?, tableAlias?.named, table, as, name]

theorem isSource_of_source? {table : Text} {tableAlias : Option Text}
    (read : source? follow body = .ok (table, tableAlias)) : IsSource body table tableAlias := by
  cases body with
  | nil => cases read
  | cons t ts =>
    rw [source?] at read
    split at read
    · cases read
    rename_i name
    rw [bind_ok_iff] at read
    obtain ⟨found, read, result⟩ := read
    cases result
    have name : t.kind = .identifier := by simpa using name
    cases ts with
    | nil =>
      cases read
      exact .bare name
    | cons u us =>
      simp only [tableAlias?] at read
      split at read
      · rename_i as
        cases us with
        | nil => cases read
        | cons v vs =>
          obtain ⟨last, rfl, rfl⟩ := named_eq_ok_iff.mp read
          exact .worded name as last
      · obtain ⟨last, rfl, rfl⟩ := named_eq_ok_iff.mp read
        exact .aliased name last

theorem source?_eq_ok_iff {table : Text} {tableAlias : Option Text} :
    source? follow body = .ok (table, tableAlias) ↔ IsSource body table tableAlias :=
  ⟨isSource_of_source?, source?_of_isSource⟩

/-! ### Lists -/

def ListsColumns (source : Text) (body : List Token) (columns : List Text) : Prop :=
  ∃ items, Items body items ∧ columns = items.map (slice source)

theorem columns?_eq_ok_iff {columns : List Text} :
    columns? source follow body = .ok columns ↔ ListsColumns source body columns := by
  unfold columns? ListsColumns
  rw [bind_ok_iff]
  simp only [cutItems_eq_ok_iff]
  constructor
  · intro given
    obtain ⟨items, split, result⟩ := given
    cases result
    exact ⟨items, split, rfl⟩
  · intro given
    obtain ⟨items, split, rfl⟩ := given
    exact ⟨items, split, rfl⟩

def directionWord : Direction → TokenKind
  | .ascending => .keyword .asc
  | .descending => .keyword .desc

/-- What an item to sort by stands for: a column, with the word for a direction after it or
without one. -/
inductive SortsBy (source : Text) : List Token → SortItem → Prop
  | plain {column : List Token} {t : Token}
      (wordless : ∀ direction, t.kind ≠ directionWord direction) :
      SortsBy source (column ++ [t]) ⟨slice source (column ++ [t]), .ascending⟩
  | worded {column : List Token} {t : Token} {direction : Direction} (present : column ≠ [])
      (word : t.kind = directionWord direction) :
      SortsBy source (column ++ [t]) ⟨slice source column, direction⟩

def ListsSortItems (source : Text) (body : List Token) (order : List SortItem) : Prop :=
  ∃ items, Items body items ∧ List.Forall₂ (SortsBy source) items order

theorem direction?_plain {column : List Token} {t : Token}
    (wordless : ∀ direction, t.kind ≠ directionWord direction) :
    direction? (column ++ [t]) = (.ascending, column ++ [t]) := by
  have ascending := wordless .ascending
  have descending := wordless .descending
  unfold direction?
  rw [List.getLast?_concat, Option.map_some]
  split
  · exact absurd (Option.some.inj ‹_›) ascending
  · exact absurd (Option.some.inj ‹_›) descending
  · rfl

theorem direction?_worded {column : List Token} {t : Token} {direction : Direction}
    (word : t.kind = directionWord direction) :
    direction? (column ++ [t]) = (direction, column) := by
  unfold direction?
  rw [List.getLast?_concat, Option.map_some, List.dropLast_concat, word]
  cases direction <;> rfl

theorem sortItem?_of_sortsBy {item : List Token} {sorts : SortItem}
    (sorted : SortsBy source item sorts) : sortItem? source body item = .ok sorts := by
  unfold sortItem?
  cases sorted with
  | @plain column t wordless =>
    rw [direction?_plain wordless]
    cases column <;> rfl
  | @worded column t direction present word =>
    rw [direction?_worded word]
    cases column with
    | nil => exact absurd rfl present
    | cons u us => rfl

theorem sortsBy_of_sortItem? {item : List Token} {sorts : SortItem} (present : item ≠ [])
    (clause : body ≠ []) (read : sortItem? source body item = .ok sorts) :
    SortsBy source item sorts := by
  obtain ⟨column, t, rfl⟩ := (List.eq_nil_or_concat' item).resolve_left present
  obtain ⟨first, others, rfl⟩ := List.exists_cons_of_ne_nil clause
  unfold sortItem? at read
  by_cases wordless : ∀ direction, t.kind ≠ directionWord direction
  · rw [direction?_plain wordless] at read
    cases column <;> cases read <;> exact .plain wordless
  · simp only [ne_eq, not_forall, not_not] at wordless
    obtain ⟨direction, word⟩ := wordless
    rw [direction?_worded word] at read
    cases column with
    | nil => cases read
    | cons u us =>
      cases read
      exact .worded (List.cons_ne_nil u us) word

theorem sortItems?_eq_ok_iff {order : List SortItem} :
    sortItems? source follow body = .ok order ↔ ListsSortItems source body order := by
  unfold sortItems? ListsSortItems
  rw [bind_ok_iff]
  simp only [cutItems_eq_ok_iff, mapM_ok_iff]
  refine exists_congr fun items => and_congr_right fun split => ?_
  constructor
  · intro read
    have each := (List.forall₂_and_left _ _).mpr ⟨split.present, read⟩
    exact each.imp fun item sorts h => sortsBy_of_sortItem? h.1 split.ne_nil h.2
  · intro sorted
    exact sorted.imp fun item sorts each => sortItem?_of_sortsBy each

/-! ### Counts -/

/-- A count: a whole number that can be read, and nothing else. -/
def IsCount (body : List Token) (count : Nat) : Prop :=
  ∃ t, body = [t] ∧ t.kind = .integer ∧ t.value.natural? = .ok count

theorem count?_eq_ok_iff {count : Nat} : count? follow body = .ok count ↔ IsCount body count := by
  constructor
  · intro read
    cases body with
    | nil => cases read
    | cons t ts =>
      simp only [count?] at read
      split at read
      · cases read
      · rename_i number
        cases ts with
        | nil => exact ⟨t, rfl, by simpa using number, mapError_ok_iff.mp read⟩
        | cons u us => cases read
  · intro given
    obtain ⟨t, rfl, number, read⟩ := given
    simpa [count?, number] using mapError_ok_iff.mpr read

/-! ### Clauses that may be absent -/

def bodyOf (clause : Clause) (sections : List Section) : Option (List Token) :=
  (sections.find? (·.clause = clause)).map Section.body

variable {clause : Clause} {stop : Token} {sections : List Section}

theorem body?_fst (clause : Clause) (stop : Token) (sections : List Section) :
    (body? clause stop sections).map Prod.fst = bodyOf clause sections := by
  unfold bodyOf
  induction sections with
  | nil => rfl
  | cons s sections ih =>
    rw [body?, List.find?_cons]
    by_cases same : s.clause = clause
    · simp [same]
    · simp [same, ih]

theorem clause?_eq_ok_iff {α : Type} {read : Token → List Token → Except Fault α}
    {reads : List Token → α → Prop} {value : Option α}
    (each : ∀ follow body a, read follow body = .ok a ↔ reads body a) :
    clause? clause stop sections read = .ok value ↔
      Option.Rel reads (bodyOf clause sections) value := by
  rw [← body?_fst clause stop]
  unfold clause?
  cases body? clause stop sections with
  | none =>
    constructor
    · rintro ⟨⟩
      exact .none
    · rintro ⟨⟩
      rfl
  | some found =>
    obtain ⟨body, follow⟩ := found
    change some <$> read follow body = .ok value ↔ Option.Rel reads (some body) value
    constructor
    · intro succeeds
      cases result : read follow body with
      | error fault =>
        rw [result] at succeeds
        cases succeeds
      | ok a =>
        rw [result] at succeeds
        cases succeeds
        exact .some ((each _ _ _).mp result)
    · intro related
      cases related with
      | some given => rw [(each follow body _).mpr given, Except.map_ok]

theorem exists_of_clause?_error {α : Type} {fault : Fault}
    {read : Token → List Token → Except Fault α}
    (refused : clause? clause stop sections read = .error fault) :
    ∃ body follow, body? clause stop sections = some (body, follow) ∧
      read follow body = .error fault := by
  unfold clause? at refused
  split at refused
  · exact ⟨_, _, ‹_›, map_error_iff.mp refused⟩
  · cases refused

end Query

end SqlConsole
