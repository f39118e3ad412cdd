import SqlConsole.Proofs.Catalog.Loading
import SqlConsole.Proofs.Value.Equality

/-!
# Writing a dataset and reading it again

What is read from the value that describes a dataset is the dataset again
(`Dataset.ofValue_toValue`), and the catalog of its tables is the catalog again
(`Catalog.ofValue_toValue`). A value that is in the form in which datasets are written equals what
is written of the dataset read from it (`Dataset.same_toValue`).
-/

namespace SqlConsole

/-! ### Reading what was written -/

theorem Sheet.lists_toValue (sheet : Sheet) : Lists (sheet.name, sheet.toValue) sheet :=
  .table rfl (listsRows_list sheet.rows)

theorem Dataset.lists_toValue (dataset : Dataset) : Lists dataset.toValue dataset := by
  refine .dataset rfl (List.forall₂_map_left_iff.mpr (List.forall₂_same.mpr ?_))
  intro database _
  refine .database rfl (List.forall₂_map_left_iff.mpr (List.forall₂_same.mpr ?_))
  exact fun sheet _ => sheet.lists_toValue

theorem Dataset.ofValue_toValue {v : Value} {dataset : Dataset}
    (accepted : ofValue v = .ok dataset) : ofValue dataset.toValue = .ok dataset := by
  obtain ⟨-, sound⟩ := ofValue_eq_ok_iff.mp accepted
  exact ofValue_eq_ok_iff.mpr ⟨dataset.lists_toValue, sound⟩

/-! ### Catalogs -/

theorem Table.sheet_of_ofSheet {sheet : Sheet} {table : Table} (made : ofSheet sheet = .ok table) :
    table.sheet = sheet := by
  unfold ofSheet at made
  split at made
  · rename_i columns texts
    unfold build at made
    split at made
    · split at made
      · cases made
        rw [Table.sheet, ← Value.mapM_text?_eq_some_iff.mp texts]
      · cases made
    · cases made
  · cases made

theorem Catalog.dataset_of_ofDataset {dataset : Dataset} {catalog : Catalog}
    (made : ofDataset dataset = .ok catalog) : catalog.dataset = dataset := by
  obtain ⟨databases, run, ⟨⟩⟩ := bind_ok_iff.mp made
  refine congrArg Dataset.mk (List.forall₂_eq_eq_eq ▸ List.forall₂_map_left_iff.mpr ?_)
  refine ((mapM_ok_iff.mp run).flip.imp fun database entry each => ?_)
  obtain ⟨tables, sheets, ⟨⟩⟩ := bind_ok_iff.mp each
  refine congrArg (Prod.mk entry.1) (List.forall₂_eq_eq_eq ▸ List.forall₂_map_left_iff.mpr ?_)
  exact (mapM_ok_iff.mp sheets).flip.imp fun _ _ => Table.sheet_of_ofSheet

theorem Catalog.ofValue_toValue {v : Value} {catalog : Catalog} (made : ofValue v = .ok catalog) :
    ofValue catalog.dataset.toValue = .ok catalog := by
  obtain ⟨dataset, accepted, built⟩ := bind_ok_iff.mp made
  rw [dataset_of_ofDataset built]
  exact bind_ok_iff.mpr ⟨dataset, Dataset.ofValue_toValue accepted, built⟩

/-! ### Writing what was read -/

namespace Sheet

/-- Whether a value has the form in which sheets are written: columns and rows, all rows lists. -/
def IsWritten (v : Value) : Prop :=
  ∃ (entries : List (Text × Value)) (headings : List Value) (rows : List (List Value)),
    v = .mapping entries ∧ entries.length = 2 ∧
    Keyed.get? entries "columns" = some (.list headings) ∧
    Keyed.get? entries "data" = some (.list (rows.map .list))

theorem same_toValue {entry : Text × Value} {sheet : Sheet} (lists : Lists entry sheet)
    (written : IsWritten entry.2) (proper : entry.2.IsProper) :
    sheet.name = entry.1 ∧ sheet.toValue.same entry.2 = true := by
  obtain ⟨columns, data⟩ := lists
  obtain ⟨entries, headings, rows, ⟨⟩, two, headed, rowed⟩ := written
  cases headed.symm.trans columns
  cases listsRows_unique data (rowed ▸ listsRows_list rows)
  have headings := Value.same_self (proper.of_get? headed)
  have rows := Value.same_self (proper.of_get? rowed)
  refine ⟨rfl, ?_⟩
  simp only [toValue, Value.same, Value.sameEntries, headed, rowed, two] at headings rows ⊢
  simp [headings, rows]

end Sheet

namespace Dataset

/-- Whether a value has the form in which datasets are written: databases of tables, all of them in
the form in which sheets are, and nothing else. -/
def IsWritten (v : Value) : Prop :=
  ∃ databases : List (Text × Value), v = .mapping [("databases", .mapping databases)] ∧
    ∀ database ∈ databases, ∃ tables : List (Text × Value),
      database.2 = .mapping [("tables", .mapping tables)] ∧
      ∀ table ∈ tables, Sheet.IsWritten table.2

theorem isWritten_toValue (dataset : Dataset) : IsWritten dataset.toValue := by
  refine ⟨_, rfl, List.forall_mem_map.mpr fun database _ => ⟨_, rfl, ?_⟩⟩
  exact List.forall_mem_map.mpr fun sheet _ => ⟨_, _, sheet.rows, rfl, rfl, rfl, rfl⟩

theorem same_sheets {entry : Text × Value} {database : Text × List Sheet}
    (lists : ListsDatabase entry database) {tables : List (Text × Value)}
    (given : entry.2 = .mapping [("tables", .mapping tables)])
    (written : ∀ table ∈ tables, Sheet.IsWritten table.2) (proper : entry.2.IsProper) :
    database.1 = entry.1 ∧ (Value.mapping [("tables", .mapping (database.2.map fun sheet =>
      (sheet.name, sheet.toValue)))]).same entry.2 = true := by
  obtain ⟨present, listed⟩ := lists
  cases given
  cases present
  refine ⟨rfl, Value.same_nested proper listed fun table member proper sheet lists => ?_⟩
  exact Sheet.same_toValue lists (written table member) proper

theorem same_toValue {v : Value} {dataset : Dataset} (lists : Lists v dataset)
    (written : IsWritten v) (proper : v.IsProper) : dataset.toValue.same v = true := by
  obtain ⟨given, ⟨⟩, written⟩ := written
  obtain ⟨⟨⟩, listed⟩ := lists
  refine Value.same_nested proper listed fun entry member proper database lists => ?_
  obtain ⟨tables, present, written⟩ := written entry member
  exact same_sheets lists present written proper

end Dataset

/-- Reading a dataset keeps all that is listed, in order. What is written of it has the form in
which datasets are written, is read as the same dataset, and equals the value it was read from if
that has the form too. -/
theorem Dataset.ofValue_faithful {v : Value} {dataset : Dataset}
    (accepted : ofValue v = .ok dataset) :
    Lists v dataset ∧
      (∀ database ∈ dataset.databases, ∀ sheet ∈ database.2,
        sheet.headings.Pairwise (fun heading other => heading.same other = false) ∧
          ∀ row ∈ sheet.rows, row.length = sheet.headings.length) ∧
      ofValue dataset.toValue = .ok dataset ∧ IsWritten dataset.toValue ∧
      (IsWritten v → v.IsProper → dataset.toValue.same v = true) ∧
      ∀ catalog, Catalog.ofValue v = .ok catalog →
        catalog.dataset = dataset ∧ Catalog.ofValue catalog.dataset.toValue = .ok catalog := by
  obtain ⟨lists, sound⟩ := ofValue_eq_ok_iff.mp accepted
  refine ⟨lists, ?_, ofValue_toValue accepted, isWritten_toValue dataset, same_toValue lists, ?_⟩
  · intro database present sheet member
    have checked := sound database present sheet member
    have distinct := (Sheet.distinctHeadings_iff.mp checked.distinct).imp fun apart =>
      (Bool.or_eq_false_iff.mp apart).1
    exact ⟨distinct, checked.aligned⟩
  · intro catalog made
    obtain ⟨_, read, built⟩ := bind_ok_iff.mp made
    cases accepted.symm.trans read
    exact ⟨Catalog.dataset_of_ofDataset built, Catalog.ofValue_toValue made⟩

def Value.bookshelf : Value := .mapping [("databases", .mapping [("private_db", .mapping [("tables",
  .mapping [("books", .mapping [
    ("data", .list [.list [.integer 1, .text "Dune"], .list [.bool true, .null]]),
    ("columns", .list [.text "id", .text "title"])])])])])]

def Dataset.bookshelf : Dataset := ⟨[("private_db", [⟨"books", [.text "id", .text "title"],
  [[.integer 1, .text "Dune"], [.bool true, .null]]⟩])]⟩

theorem Dataset.ofValue_faithful_bookshelf :
    ofValue .bookshelf = .ok .bookshelf ∧ bookshelf.toValue ≠ .bookshelf ∧
      bookshelf.toValue.same .bookshelf = true ∧ ofValue bookshelf.toValue = .ok .bookshelf := by
  have accepted : ofValue .bookshelf = .ok .bookshelf := by decide
  obtain ⟨-, -, again, -, same, -⟩ := ofValue_faithful accepted
  have written : IsWritten .bookshelf := by
    refine ⟨_, rfl, List.forall_mem_singleton.mpr ⟨_, rfl, List.forall_mem_singleton.mpr ?_⟩⟩
    exact ⟨_, _, [[.integer 1, .text "Dune"], [.bool true, .null]], rfl, rfl, rfl, rfl⟩
  have proper : Value.bookshelf.IsProper := by
    have apart : ("data" : Text) ≠ "columns" := by decide
    simp [Value.bookshelf, Keyed.Distinct, apart]
  exact ⟨accepted, by decide, same written proper, again⟩

end SqlConsole
