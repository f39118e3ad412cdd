import SqlConsole.Proofs.Catalog.Listing

/-!
# What a dataset is refused for

A value is refused exactly if something is wrong with it, and the error is one of the things that
are (`Dataset.Defect`). A value that gives its columns as texts and its rows as lists is read
exactly if it is a dataset as datasets are described (`Dataset.IsDataset`). Values that give them
otherwise are not all refused: the code points of a text are read as the cells of a row.
-/

namespace SqlConsole

def Value.mappingAt? (v : Value) (key : Text) : Option (List (Text × Value)) :=
  v.entries?.bind fun entries => (Keyed.get? entries key).bind Value.entries?

theorem Value.entries?_eq_some_iff {v : Value} {entries : List (Text × Value)} :
    v.entries? = some entries ↔ v = .mapping entries := by
  cases v <;> simp [Value.entries?]

theorem Value.mappingAt?_eq_some_iff {v : Value} {key : Text} {inner : List (Text × Value)} :
    v.mappingAt? key = some inner ↔
      ∃ entries, v = .mapping entries ∧ Keyed.get? entries key = some (.mapping inner) := by
  simp [mappingAt?, Option.bind_eq_some_iff, entries?_eq_some_iff]

namespace Sheet

/-! ### What is wrong with a table -/

inductive Fault (sheet : Sheet) : DatasetError → Prop
  | compound {heading : Value} : heading ∈ sheet.headings → heading.isScalar = false →
      Fault sheet (.malformed sheet.name)
  | repeated : ¬sheet.headings.Pairwise (fun v w => v.alike w = false) →
      Fault sheet (.duplicateColumn sheet.name)
  | length {index : Nat} {row : List Value} : sheet.rows[index]? = some row →
      row.length ≠ sheet.headings.length →
      Fault sheet (.rowLength index sheet.name row.length sheet.headings.length)

inductive Defect : Text × Value → DatasetError → Prop
  | notMapping {name : Text} {v : Value} : v.entries? = none →
      Defect (name, v) (.tableNotMapping name)
  | noColumns {name : Text} {entries : List (Text × Value)} :
      (∀ headings, Keyed.get? entries "columns" ≠ some (.list headings)) →
      Defect (name, .mapping entries) (.noColumns name)
  | noRows {name : Text} {entries : List (Text × Value)} :
      (∀ rows, ¬ListsRows (Keyed.get? entries "data") rows) →
      Defect (name, .mapping entries) (.malformed name)
  | fault {entry : Text × Value} {sheet : Sheet} {error : DatasetError} : Lists entry sheet →
      Fault sheet error → Defect entry error

theorem fault_misalignment {sheet : Sheet}
    (unaligned : ¬∀ row ∈ sheet.rows, row.length = sheet.headings.length) :
    Fault sheet (misalignment sheet.name sheet.headings.length sheet.rows) := by
  unfold misalignment
  split
  · rename_i row index found
    have differs := List.find?_some found
    exact .length (List.mem_zipIdx_iff_getElem?.mp (List.mem_of_find?_eq_some found))
      (by simpa using differs)
  · -- The row was looked for among the numbered rows, so none of the rows is at fault.
    rename_i absent
    refine absurd (fun row member => ?_) unaligned
    obtain ⟨index, inside, rfl⟩ := List.getElem_of_mem member
    have same := List.find?_eq_none.mp absent (sheet.rows[index], index)
      (List.mem_zipIdx_iff_getElem?.mpr (List.getElem?_eq_getElem inside))
    simpa using same

theorem fault_of_check {sheet : Sheet} {error : DatasetError}
    (refused : check sheet = .error error) : Fault sheet error := by
  unfold check at refused
  split at refused
  · rename_i compound
    cases refused
    simp only [Bool.not_eq_true', List.all_eq_false, Bool.not_eq_true] at compound
    obtain ⟨heading, member, compound⟩ := compound
    exact .compound member compound
  · split at refused
    · rename_i repeated
      cases refused
      exact .repeated (by simpa [← distinctHeadings_iff] using repeated)
    · split at refused
      · rename_i unaligned
        cases refused
        exact fault_misalignment (by simpa using unaligned)
      · cases refused

theorem IsSound.not_fault {sheet : Sheet} (sound : sheet.IsSound) (error : DatasetError) :
    ¬Fault sheet error := by
  intro fault
  cases fault with
  | compound member compound => exact absurd (sound.scalar _ member) (by simp [compound])
  | repeated repeated => exact repeated (distinctHeadings_iff.mp sound.distinct)
  | length present differs => exact differs (sound.aligned _ (List.mem_of_getElem? present))

theorem Lists.unique {entry : Text × Value} {sheet other : Sheet} (lists : Lists entry sheet)
    (again : Lists entry other) : sheet = other := by
  obtain ⟨columns, rows⟩ := lists
  obtain ⟨columns', rows'⟩ := again
  cases columns.symm.trans columns'
  cases listsRows_unique rows rows'
  rfl

theorem defect_of_ofValue {name : Text} {v : Value} {error : DatasetError}
    (refused : ofValue name v = .error error) : Defect (name, v) error := by
  unfold ofValue at refused
  split at refused
  · split at refused
    · rename_i columns
      split at refused
      · rename_i rows
        exact .fault (.table columns (rowsOf?_eq_some_iff.mp rows)) (fault_of_check refused)
      · rename_i absent
        cases refused
        refine .noRows fun rows lists => ?_
        cases absent.symm.trans (rowsOf?_eq_some_iff.mpr lists)
    · rename_i absent
      cases refused
      exact .noColumns absent
  · rename_i notMapping
    cases refused
    refine .notMapping ?_
    cases v with
    | mapping entries => exact absurd rfl (notMapping entries)
    | _ => rfl

theorem not_defect_of_ofValue {name : Text} {v : Value} {sheet : Sheet}
    (read : ofValue name v = .ok sheet) (error : DatasetError) : ¬Defect (name, v) error := by
  obtain ⟨lists, sound⟩ := ofValue_eq_ok_iff.mp read
  intro defect
  cases defect with
  | notMapping absent => cases lists; cases absent
  | noColumns absent => cases lists with | table columns rows => exact absent _ columns
  | noRows absent => cases lists with | table columns rows => exact absent _ rows
  | fault listed fault => exact sound.not_fault error (lists.unique listed ▸ fault)

theorem exists_ofValue_iff_not_defect {name : Text} {v : Value} :
    (∃ sheet, ofValue name v = .ok sheet) ↔ ∀ error, ¬Defect (name, v) error :=
  succeeds_iff_not (fun _ => defect_of_ofValue) fun _ => not_defect_of_ofValue

/-! ### Tables as they are described -/

inductive GivesRows : Option Value → List (List Value) → Prop
  | missing : GivesRows none []
  | null : GivesRows (some .null) []
  | list (rows : List (List Value)) : GivesRows (some (.list (rows.map .list))) rows

/-- Whether a value is a table as datasets are described: its columns are distinct texts and its
rows, if there are any, lists with a cell for each column. -/
def IsTable (v : Value) : Prop :=
  ∃ (entries : List (Text × Value)) (columns : List Text) (rows : List (List Value)),
    v = .mapping entries ∧ Keyed.get? entries "columns" = some (.list (columns.map .text)) ∧
      columns.Nodup ∧ GivesRows (Keyed.get? entries "data") rows ∧
      ∀ row ∈ rows, row.length = columns.length

def IsPlain (v : Value) : Prop :=
  ∀ entries, v = .mapping entries →
    (∀ headings, Keyed.get? entries "columns" = some (.list headings) →
      ∃ columns : List Text, headings = columns.map .text) ∧
    ∃ rows, GivesRows (Keyed.get? entries "data") rows

theorem GivesRows.lists {data : Option Value} {rows : List (List Value)}
    (gives : GivesRows data rows) : ListsRows data rows := by
  cases gives with
  | missing => exact .missing
  | null => exact .notGiven rfl
  | list => exact listsRows_list rows

/-- A table is as it is described exactly if it is read and gives its columns as texts and its rows
as lists. -/
theorem isTable_iff {name : Text} {v : Value} :
    IsTable v ↔ (∃ sheet, ofValue name v = .ok sheet) ∧ IsPlain v := by
  constructor
  · rintro ⟨entries, columns, rows, rfl, headed, distinct, gives, aligned⟩
    constructor
    · refine ⟨⟨name, _, rows⟩, ofValue_eq_ok_iff.mpr ⟨.table headed gives.lists, ?_⟩⟩
      refine ⟨⟨distinctHeadings_map_text.mpr distinct, ?_⟩, ?_⟩
      · simpa using aligned
      · intro heading member
        obtain ⟨column, -, rfl⟩ := List.mem_map.mp member
        rfl
    · intro _ same
      obtain rfl := Value.mapping.inj same
      refine ⟨fun headings again => ⟨columns, ?_⟩, rows, gives⟩
      cases headed.symm.trans again
      rfl
  · rintro ⟨⟨sheet, read⟩, plain⟩
    obtain ⟨⟨headed, listed⟩, sound⟩ := ofValue_eq_ok_iff.mp read
    obtain ⟨texts, rows, gives⟩ := plain _ rfl
    obtain ⟨columns, rfl⟩ := texts _ headed
    cases listsRows_unique listed gives.lists
    refine ⟨_, columns, _, rfl, headed, distinctHeadings_map_text.mp sound.distinct, gives, ?_⟩
    simpa using sound.aligned

theorem IsPlain.not_malformed {entry : Text × Value} {error : DatasetError}
    (plain : IsPlain entry.2) (defect : Defect entry error) (table : Text) :
    error ≠ .malformed table := by
  cases defect with
  | notMapping absent => nofun
  | noColumns absent => nofun
  | noRows absent =>
    obtain ⟨-, rows, gives⟩ := plain _ rfl
    exact absurd gives.lists (absent rows)
  | fault lists fault =>
    cases fault with
    | compound member compound =>
      obtain ⟨headed, listed⟩ := lists
      obtain ⟨columns, rfl⟩ := (plain _ rfl).1 _ headed
      obtain ⟨column, -, rfl⟩ := List.mem_map.mp member
      cases compound
    | repeated repeated => nofun
    | length present differs => nofun

end Sheet

namespace Dataset

/-! ### What is wrong with a dataset -/

inductive DatabaseDefect : Text × Value → DatasetError → Prop
  | notMapping {name : Text} {v : Value} : v.entries? = none →
      DatabaseDefect (name, v) (.databaseNotMapping name)
  | noTables {name : Text} {entries : List (Text × Value)} :
      (Value.mapping entries).mappingAt? "tables" = none →
      DatabaseDefect (name, .mapping entries) (.noTables name)
  | table {entry table : Text × Value} {tables : List (Text × Value)} {error : DatasetError} :
      entry.2.mappingAt? "tables" = some tables → table ∈ tables → Sheet.Defect table error →
      DatabaseDefect entry error

inductive Defect : Value → DatasetError → Prop
  | noDatabases {v : Value} : v.mappingAt? "databases" = none → Defect v .noDatabases
  | database {v : Value} {databases : List (Text × Value)} {database : Text × Value}
      {error : DatasetError} : v.mappingAt? "databases" = some databases → database ∈ databases →
      DatabaseDefect database error → Defect v error

theorem sheetsOf_of_mappingAt? {name : Text} {v : Value} {tables : List (Text × Value)}
    (present : v.mappingAt? "tables" = some tables) :
    sheetsOf name v = tables.mapM fun table => Sheet.ofValue table.1 table.2 := by
  obtain ⟨entries, rfl, found⟩ := Value.mappingAt?_eq_some_iff.mp present
  simp only [sheetsOf, found]

theorem ofValue_of_mappingAt? {v : Value} {databases : List (Text × Value)}
    (present : v.mappingAt? "databases" = some databases) :
    ofValue v = do
      return ⟨← databases.mapM fun entry => do return (entry.1, ← sheetsOf entry.1 entry.2)⟩ := by
  obtain ⟨entries, rfl, found⟩ := Value.mappingAt?_eq_some_iff.mp present
  simp only [ofValue, found]

theorem sheetsOf_of_none {name : Text} {v : Value} (absent : v.mappingAt? "tables" = none) :
    sheetsOf name v =
      .error (if v.entries?.isSome then .noTables name else .databaseNotMapping name) := by
  unfold sheetsOf
  split
  · split
    · rename_i found
      cases absent.symm.trans (Value.mappingAt?_eq_some_iff.mpr ⟨_, rfl, found⟩)
    · rfl
  · rename_i notMapping
    cases v with
    | mapping entries => exact absurd rfl (notMapping entries)
    | _ => rfl

theorem ofValue_of_none {v : Value} (absent : v.mappingAt? "databases" = none) :
    ofValue v = .error .noDatabases := by
  unfold ofValue
  split
  · split
    · rename_i found
      cases absent.symm.trans (Value.mappingAt?_eq_some_iff.mpr ⟨_, rfl, found⟩)
    · rfl
  · rfl

theorem defect_of_sheetsOf {name : Text} {v : Value} {error : DatasetError}
    (refused : sheetsOf name v = .error error) : DatabaseDefect (name, v) error := by
  cases present : v.mappingAt? "tables" with
  | some tables =>
    rw [sheetsOf_of_mappingAt? present] at refused
    obtain ⟨table, member, failed⟩ := exists_mem_of_mapM_error refused
    exact .table present member (Sheet.defect_of_ofValue failed)
  | none =>
    rw [sheetsOf_of_none present] at refused
    cases refused
    cases v with
    | mapping entries => exact .noTables present
    | _ => exact .notMapping rfl

theorem defect_of_ofValue {v : Value} {error : DatasetError} (refused : ofValue v = .error error) :
    Defect v error := by
  cases present : v.mappingAt? "databases" with
  | some databases =>
    rw [ofValue_of_mappingAt? present] at refused
    rcases bind_error_iff.mp refused with refused | ⟨_, _, ⟨⟩⟩
    obtain ⟨database, member, failed⟩ := exists_mem_of_mapM_error refused
    rcases bind_error_iff.mp failed with failed | ⟨_, _, ⟨⟩⟩
    exact .database present member (defect_of_sheetsOf failed)
  | none =>
    rw [ofValue_of_none present] at refused
    cases refused
    exact .noDatabases present

theorem exists_sheetsOf_iff {name : Text} {v : Value} :
    (∃ sheets, sheetsOf name v = .ok sheets) ↔ ∃ tables, v.mappingAt? "tables" = some tables ∧
      ∀ table ∈ tables, ∃ sheet, Sheet.ofValue table.1 table.2 = .ok sheet := by
  cases present : v.mappingAt? "tables" with
  | some tables =>
    rw [sheetsOf_of_mappingAt? present, mapM_succeeds_iff]
    simp
  | none => simp [sheetsOf_of_none present]

theorem exists_ofValue_iff {v : Value} :
    (∃ dataset, ofValue v = .ok dataset) ↔ ∃ databases, v.mappingAt? "databases" = some databases ∧
      ∀ database ∈ databases, ∃ sheets, sheetsOf database.1 database.2 = .ok sheets := by
  cases present : v.mappingAt? "databases" with
  | some databases =>
    rw [ofValue_of_mappingAt? present]
    simp only [bind_pure_succeeds_iff, mapM_succeeds_iff]
    simp
  | none => simp [ofValue_of_none present]

theorem not_defect_of_sheetsOf {name : Text} {v : Value} {sheets : List Sheet}
    (read : sheetsOf name v = .ok sheets) (error : DatasetError) :
    ¬DatabaseDefect (name, v) error := by
  obtain ⟨tables, present, each⟩ := exists_sheetsOf_iff.mp ⟨sheets, read⟩
  intro defect
  cases defect with
  | notMapping absent => simp [Value.mappingAt?, absent] at present
  | noTables absent => cases absent.symm.trans present
  | table again member defect =>
    cases present.symm.trans again
    exact Sheet.exists_ofValue_iff_not_defect.mp (each _ member) error defect

theorem exists_sheetsOf_iff_not_defect {name : Text} {v : Value} :
    (∃ sheets, sheetsOf name v = .ok sheets) ↔ ∀ error, ¬DatabaseDefect (name, v) error :=
  succeeds_iff_not (fun _ => defect_of_sheetsOf) fun _ => not_defect_of_sheetsOf

theorem not_defect_of_ofValue {v : Value} {dataset : Dataset} (read : ofValue v = .ok dataset)
    (error : DatasetError) : ¬Defect v error := by
  obtain ⟨databases, present, each⟩ := exists_ofValue_iff.mp ⟨dataset, read⟩
  intro defect
  cases defect with
  | noDatabases absent => cases absent.symm.trans present
  | database again member defect =>
    cases present.symm.trans again
    exact exists_sheetsOf_iff_not_defect.mp (each _ member) error defect

theorem exists_ofValue_iff_not_defect {v : Value} :
    (∃ dataset, ofValue v = .ok dataset) ↔ ∀ error, ¬Defect v error :=
  succeeds_iff_not (fun _ => defect_of_ofValue) fun _ => not_defect_of_ofValue

/-! ### Datasets as they are described -/

/-- Whether a value is a database as datasets are described: a mapping of tables. -/
def IsDatabase (v : Value) : Prop :=
  ∃ tables, v.mappingAt? "tables" = some tables ∧ ∀ table ∈ tables, Sheet.IsTable table.2

/-- Whether a value is a dataset as datasets are described: a mapping of databases. -/
def IsDataset (v : Value) : Prop :=
  ∃ databases, v.mappingAt? "databases" = some databases ∧ ∀ database ∈ databases,
    IsDatabase database.2

def IsPlainDatabase (v : Value) : Prop :=
  ∀ tables, v.mappingAt? "tables" = some tables → ∀ table ∈ tables, Sheet.IsPlain table.2

def IsPlain (v : Value) : Prop :=
  ∀ databases, v.mappingAt? "databases" = some databases → ∀ database ∈ databases,
    IsPlainDatabase database.2

theorem isDatabase_iff {name : Text} {v : Value} :
    IsDatabase v ↔ (∃ sheets, sheetsOf name v = .ok sheets) ∧ IsPlainDatabase v := by
  rw [exists_sheetsOf_iff, IsDatabase, IsPlainDatabase]
  cases v.mappingAt? "tables" with
  | none => simp
  | some tables =>
    have each (table : Text × Value) := @Sheet.isTable_iff table.1 table.2
    simp [each, forall_and]

theorem isDataset_iff {v : Value} :
    IsDataset v ↔ (∃ dataset, ofValue v = .ok dataset) ∧ IsPlain v := by
  rw [exists_ofValue_iff, IsDataset, IsPlain]
  cases v.mappingAt? "databases" with
  | none => simp
  | some databases =>
    have each (database : Text × Value) := @isDatabase_iff database.1 database.2
    simp [each, forall_and]

theorem IsPlain.not_malformed {v : Value} (plain : IsPlain v) (table : Text) :
    ofValue v ≠ .error (.malformed table) := by
  intro refused
  cases defect_of_ofValue refused with
  | database databases member defect =>
    cases defect with
    | table tables inside defect =>
      exact (plain _ databases _ member _ tables _ inside).not_malformed defect table rfl

/-- A value is read exactly if nothing is wrong with it, and is refused for something that is. It is
a dataset as datasets are described exactly if it is read and gives its columns as texts and its
rows as lists. Only a value that gives them otherwise is refused as malformed. -/
theorem ofValue_validates (v : Value) :
    ((∃ dataset, ofValue v = .ok dataset) ↔ ∀ error, ¬Defect v error) ∧
      (∀ error, ofValue v = .error error → Defect v error) ∧
      (IsDataset v ↔ (∃ dataset, ofValue v = .ok dataset) ∧ IsPlain v) ∧
      (IsPlain v → ∀ table, ofValue v ≠ .error (.malformed table)) :=
  ⟨exists_ofValue_iff_not_defect, fun _ => defect_of_ofValue, isDataset_iff,
    IsPlain.not_malformed⟩

end Dataset

def Value.ofTable (columns data : Value) : Value :=
  .mapping [("databases", .mapping [("db", .mapping [("tables", .mapping [("t",
    .mapping [("columns", columns), ("data", data)])])])])]

/-- A row that is a text is read as the row of its code points. -/
theorem Dataset.ofValue_reads_texts :
    ofValue (.ofTable (.list [.text "a", .text "b"]) (.list [.text "xy"])) =
        .ok ⟨[("db", [⟨"t", [.text "a", .text "b"], [[.text "x", .text "y"]]⟩])]⟩ ∧
      ¬IsDataset (.ofTable (.list [.text "a", .text "b"]) (.list [.text "xy"])) ∧
      ofValue (.ofTable (.list [.text "a"]) (.integer 5)) = .error (.malformed "t") := by
  refine ⟨by decide, ?_, by decide⟩
  intro described
  obtain ⟨-, plain⟩ := isDataset_iff.mp described
  obtain ⟨-, rows, gives⟩ := plain _ rfl _ List.mem_cons_self _ rfl _ List.mem_cons_self _ rfl
  -- The data is a list of one text, and rows given as lists are never texts.
  generalize same : Keyed.get? _ _ = data at gives
  cases gives with
  | missing => cases same
  | null => cases same
  | list => cases rows <;> cases same

end SqlConsole
