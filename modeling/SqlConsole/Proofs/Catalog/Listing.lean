import SqlConsole.Dataset
import SqlConsole.Proofs.Result

/-!
# What a dataset lists

A value lists a dataset: its databases, their tables, the columns and the rows of each, all in the
order in which they are written (`Dataset.Lists`). A dataset is read from a value exactly if the
value lists it and its sheets pass the check (`Dataset.ofValue_eq_ok_iff`).
-/

namespace SqlConsole

namespace Sheet

/-! ### Sheets that pass -/

theorem distinctHeadings_iff {headings : List Value} :
    distinctHeadings headings = true ↔ headings.Pairwise (fun v w => v.alike w = false) := by
  induction headings with
  | nil => simp [distinctHeadings]
  | cons heading headings ih => simp [distinctHeadings, ih]

theorem distinctHeadings_map_text {columns : List Text} :
    distinctHeadings (columns.map .text) = true ↔ columns.Nodup := by
  rw [distinctHeadings_iff, List.pairwise_map]
  simp only [Value.alike, Value.same, Value.isOne, Bool.or_false, beq_eq_false_iff_ne]
  rfl

structure IsChecked (sheet : Sheet) : Prop where
  distinct : distinctHeadings sheet.headings = true
  aligned : ∀ row ∈ sheet.rows, row.length = sheet.headings.length

structure IsSound (sheet : Sheet) : Prop extends sheet.IsChecked where
  scalar : ∀ heading ∈ sheet.headings, heading.isScalar = true

theorem check_eq_ok_iff {sheet checked : Sheet} :
    check sheet = .ok checked ↔ sheet = checked ∧ checked.IsSound := by
  constructor
  · intro passed
    unfold check at passed
    split at passed
    · cases passed
    · split at passed
      · cases passed
      · split at passed
        · cases passed
        · rename_i scalar distinct aligned
          cases passed
          exact ⟨rfl, ⟨by simpa using distinct, by simpa using aligned⟩, by simpa using scalar⟩
  · rintro ⟨rfl, sound⟩
    have scalar := List.all_eq_true.mpr sound.scalar
    have aligned : sheet.rows.all (fun row => row.length == sheet.headings.length) = true := by
      simpa using sound.aligned
    simp [check, scalar, sound.distinct, aligned]

/-! ### What a table lists -/

/-- What the data of a table lists as rows. Data that is missing or does not count as given lists
none. -/
inductive ListsRows : Option Value → List (List Value) → Prop
  | missing : ListsRows none []
  | notGiven {data : Value} : data.isGiven = false → ListsRows (some data) []
  | given {data : Value} {items : List Value} {rows : List (List Value)} : data.isGiven = true →
      parts? data = some items → List.Forall₂ (fun item row => parts? item = some row) items rows →
      ListsRows (some data) rows

theorem rowsOf?_eq_some_iff {entries : List (Text × Value)} {rows : List (List Value)} :
    rowsOf? entries = some rows ↔ ListsRows (Keyed.get? entries "data") rows := by
  unfold rowsOf?
  cases Keyed.get? entries "data" with
  | none =>
    constructor
    · rintro ⟨⟩
      exact .missing
    · rintro ⟨⟩
      rfl
  | some data =>
    dsimp only
    constructor
    · split
      · rename_i given
        intro read
        obtain ⟨items, taken, each⟩ := Option.bind_eq_some_iff.mp read
        exact .given given taken (mapM_some_iff.mp each)
      · rename_i notGiven
        rintro ⟨⟩
        exact .notGiven (Bool.eq_false_iff.mpr notGiven)
    · rintro (_ | notGiven | ⟨given, taken, each⟩)
      · simp [notGiven]
      · simp [given, taken, mapM_some_iff.mpr each]

theorem listsRows_unique {entries : List (Text × Value)} {rows others : List (List Value)}
    (lists : ListsRows (Keyed.get? entries "data") rows)
    (again : ListsRows (Keyed.get? entries "data") others) : rows = others :=
  Option.some.inj ((rowsOf?_eq_some_iff.mpr lists).symm.trans (rowsOf?_eq_some_iff.mpr again))

theorem listsRows_list (rows : List (List Value)) :
    ListsRows (some (.list (rows.map .list))) rows := by
  cases rows with
  | nil => exact .notGiven rfl
  | cons row rows =>
    refine .given rfl rfl (List.forall₂_map_left_iff.mpr (List.forall₂_same.mpr ?_))
    exact fun _ _ => rfl

inductive Lists : Text × Value → Sheet → Prop
  | table {name : Text} {entries : List (Text × Value)} {headings : List Value}
      {rows : List (List Value)} : Keyed.get? entries "columns" = some (.list headings) →
      ListsRows (Keyed.get? entries "data") rows →
      Lists (name, .mapping entries) ⟨name, headings, rows⟩

theorem ofValue_eq_ok_iff {name : Text} {v : Value} {sheet : Sheet} :
    ofValue name v = .ok sheet ↔ Lists (name, v) sheet ∧ sheet.IsSound := by
  constructor
  · intro read
    unfold ofValue at read
    split at read
    · split at read
      · rename_i columns
        split at read
        · rename_i rows
          obtain ⟨rfl, sound⟩ := check_eq_ok_iff.mp read
          exact ⟨.table columns (rowsOf?_eq_some_iff.mp rows), sound⟩
        · cases read
      · cases read
    · cases read
  · rintro ⟨⟨columns, rows⟩, sound⟩
    simp only [ofValue, columns, rowsOf?_eq_some_iff.mpr rows]
    exact check_eq_ok_iff.mpr ⟨rfl, sound⟩

end Sheet

namespace Dataset

/-! ### What a dataset lists -/

inductive ListsDatabase : Text × Value → Text × List Sheet → Prop
  | database {name : Text} {entries tables : List (Text × Value)} {sheets : List Sheet} :
      Keyed.get? entries "tables" = some (.mapping tables) →
      List.Forall₂ Sheet.Lists tables sheets → ListsDatabase (name, .mapping entries) (name, sheets)

inductive Lists : Value → Dataset → Prop
  | dataset {entries given : List (Text × Value)} {databases : List (Text × List Sheet)} :
      Keyed.get? entries "databases" = some (.mapping given) →
      List.Forall₂ ListsDatabase given databases → Lists (.mapping entries) ⟨databases⟩

def IsSound (dataset : Dataset) : Prop :=
  ∀ database ∈ dataset.databases, ∀ sheet ∈ database.2, sheet.IsSound

theorem sheetsOf_eq_ok_iff {database : Text} {v : Value} {sheets : List Sheet} :
    sheetsOf database v = .ok sheets ↔
      ListsDatabase (database, v) (database, sheets) ∧ ∀ sheet ∈ sheets, sheet.IsSound := by
  have each (tables : List (Text × Value)) :
      (tables.mapM fun table => Sheet.ofValue table.1 table.2) = .ok sheets ↔
        List.Forall₂ Sheet.Lists tables sheets ∧ ∀ sheet ∈ sheets, sheet.IsSound := by
    simp only [mapM_ok_iff, Sheet.ofValue_eq_ok_iff, forall₂_and_right]
  constructor
  · intro read
    unfold sheetsOf at read
    split at read
    · split at read
      · rename_i tables
        obtain ⟨listed, sound⟩ := (each _).mp read
        exact ⟨.database tables listed, sound⟩
      · cases read
    · cases read
  · rintro ⟨⟨tables, listed⟩, sound⟩
    simp only [sheetsOf, tables]
    exact (each _).mpr ⟨listed, sound⟩

theorem ofValue_eq_ok_iff {v : Value} {dataset : Dataset} :
    ofValue v = .ok dataset ↔ Lists v dataset ∧ dataset.IsSound := by
  have database (entry : Text × Value) (read : Text × List Sheet) :
      (do return (entry.1, ← sheetsOf entry.1 entry.2)) = Except.ok (ε := DatasetError) read ↔
        ListsDatabase entry read ∧ ∀ sheet ∈ read.2, sheet.IsSound := by
    rw [bind_ok_iff]
    constructor
    · rintro ⟨sheets, found, ⟨⟩⟩
      exact sheetsOf_eq_ok_iff.mp found
    · rintro ⟨⟨tables, listed⟩, sound⟩
      exact ⟨_, sheetsOf_eq_ok_iff.mpr ⟨.database tables listed, sound⟩, rfl⟩
  have each (given : List (Text × Value)) (databases : List (Text × List Sheet)) :
      (given.mapM fun entry => do return (entry.1, ← sheetsOf entry.1 entry.2)) = .ok databases ↔
        List.Forall₂ ListsDatabase given databases ∧ IsSound ⟨databases⟩ := by
    simp only [mapM_ok_iff, database, forall₂_and_right, IsSound]
  constructor
  · intro read
    unfold ofValue at read
    split at read
    · split at read
      · rename_i present
        obtain ⟨databases, run, ⟨⟩⟩ := bind_ok_iff.mp read
        obtain ⟨listed, sound⟩ := (each _ _).mp run
        exact ⟨.dataset present listed, sound⟩
      · cases read
    · cases read
  · rintro ⟨⟨present, listed⟩, sound⟩
    simp only [ofValue, present]
    exact bind_ok_iff.mpr ⟨_, (each _ _).mpr ⟨listed, sound⟩, rfl⟩

end Dataset

end SqlConsole
