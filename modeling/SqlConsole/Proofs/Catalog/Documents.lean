import SqlConsole.Proofs.Catalog.RoundTrip
import SqlConsole.Proofs.Value.Writable

/-!
# Values of documents

No value in a document holds an integer that is too long to be written (`Json.isWritable_of_read`),
so no cell of a table that is read from a file does (`Catalog.isWritable_of_ofFile`).
-/

namespace SqlConsole

namespace Json

/-! ### Scalars -/

theorem isWritable_of_number {negative : Bool} {t rest : Text} {v : Value}
    (read : number negative t = .ok (v, rest)) : v.isWritable = true := by
  unfold number at read
  split at read
  · cases read
  dsimp only at read
  split at read
  · split at read
    · rename_i given
      cases read
      exact Value.isWritable_of_natural? given negative
    · cases read
  · cases read
    rfl
  · cases read
    rfl

theorem isWritable_of_scalar {t rest : Text} {v : Value} (read : scalar t = .ok (v, rest)) :
    v.isWritable = true := by
  unfold scalar at read
  split at read
  · rename_i found named
    cases read
    obtain ⟨⟨name, named⟩, member, given⟩ := List.exists_of_findSome?_eq_some named
    obtain ⟨_, -, ⟨⟩⟩ := Option.map_eq_some_iff.mp given
    have each : ∀ entry ∈ names, entry.2.isWritable = true := by simp [names, Value.isWritable]
    exact each _ member
  · split at read <;> exact isWritable_of_number read

/-! ### Documents -/

theorem isWritable_ofList {entries : List (Text × Value)}
    (each : ∀ e ∈ entries, e.2.isWritable = true) :
    (Value.mapping (Keyed.ofList entries)).isWritable = true :=
  Value.isWritable_mapping.mpr fun e member => each e (Keyed.mem_of_mem_ofList member)

/-- Whether all that the readers give with this fuel can be written. -/
structure ReadsWritable (fuel : Nat) : Prop where
  value {depth : Nat} {t rest : Text} {v : Value} :
    Json.value fuel depth t = .ok (v, rest) → v.isWritable = true
  items {depth : Nat} {t rest : Text} {vs : List Value} :
    Json.items fuel depth t = .ok (vs, rest) → ∀ v ∈ vs, v.isWritable = true
  entries {depth : Nat} {t rest : Text} {es : List (Text × Value)} :
    Json.entries fuel depth t = .ok (es, rest) → ∀ e ∈ es, e.2.isWritable = true

namespace ReadsWritable

variable {fuel depth : Nat} {t rest : Text} {v : Value} {vs : List Value} {es : List (Text × Value)}

theorem value_succ (reads : ReadsWritable fuel)
    (read : Json.value (fuel + 1) depth t = .ok (v, rest)) : v.isWritable = true := by
  unfold Json.value at read
  split at read
  · obtain ⟨_, -, ⟨⟩⟩ := bind_ok_iff.mp read
    rfl
  · cases read
  · split at read
    · cases read
      rfl
    · obtain ⟨⟨vs, _⟩, given, ⟨⟩⟩ := bind_ok_iff.mp read
      exact Value.isWritable_list.mpr (reads.items given)
  · cases read
  · split at read
    · cases read
      rfl
    · obtain ⟨⟨es, _⟩, given, ⟨⟩⟩ := bind_ok_iff.mp read
      exact isWritable_ofList (reads.entries given)
  · exact isWritable_of_scalar read

theorem items_succ (reads : ReadsWritable fuel)
    (read : Json.items (fuel + 1) depth t = .ok (vs, rest)) : ∀ v ∈ vs, v.isWritable = true := by
  unfold Json.items at read
  obtain ⟨⟨v, _⟩, given, read⟩ := bind_ok_iff.mp read
  have first := reads.value given
  dsimp only at read
  split at read
  · cases read
    simpa using first
  · obtain ⟨⟨vs, _⟩, others, ⟨⟩⟩ := bind_ok_iff.mp read
    exact List.forall_mem_cons.mpr ⟨first, reads.items others⟩
  · cases read

theorem entries_succ (reads : ReadsWritable fuel)
    (read : Json.entries (fuel + 1) depth t = .ok (es, rest)) :
    ∀ e ∈ es, e.2.isWritable = true := by
  unfold Json.entries at read
  split at read
  · obtain ⟨⟨key, _⟩, -, read⟩ := bind_ok_iff.mp read
    dsimp only at read
    split at read
    · obtain ⟨⟨v, _⟩, given, read⟩ := bind_ok_iff.mp read
      have first := reads.value given
      dsimp only at read
      split at read
      · cases read
        simpa using first
      · obtain ⟨⟨es, _⟩, others, ⟨⟩⟩ := bind_ok_iff.mp read
        exact List.forall_mem_cons.mpr ⟨first, reads.entries others⟩
      · cases read
    · cases read
  · cases read

end ReadsWritable

theorem readsWritable (fuel : Nat) : ReadsWritable fuel := by
  induction fuel with
  | zero => constructor <;> simp [value, items, entries]
  | succ fuel ih => exact ⟨ih.value_succ, ih.items_succ, ih.entries_succ⟩

theorem isWritable_of_read {depth : Nat} {t : Text} {v : Value} (document : read depth t = .ok v) :
    v.isWritable = true := by
  obtain ⟨⟨_, _⟩, given, document⟩ := bind_ok_iff.mp document
  dsimp only at document
  split at document
  · cases document
    exact (readsWritable _).value given
  · cases document

end Json

/-! ### Datasets -/

theorem Sheet.isWritable_of_parts? {v : Value} {parts : List Value} (writable : v.isWritable = true)
    (taken : parts? v = some parts) : ∀ part ∈ parts, part.isWritable = true := by
  cases v with
  | list items =>
    cases taken
    exact Value.isWritable_list.mp writable
  | text t =>
    cases taken
    exact List.forall_mem_map.mpr fun c _ => rfl
  | mapping entries =>
    cases taken
    exact List.forall_mem_map.mpr fun e _ => rfl
  | _ => cases taken

theorem Value.isWritable_of_get? {entries : List (Text × Value)} {key : Text} {v : Value}
    (writable : (mapping entries).isWritable = true) (found : Keyed.get? entries key = some v) :
    v.isWritable = true :=
  isWritable_mapping.mp writable _ (Keyed.mem_of_get? found)

theorem Sheet.Lists.isWritable {entry : Text × Value} {sheet : Sheet} (lists : Lists entry sheet)
    (writable : entry.2.isWritable = true) :
    ∀ row ∈ sheet.rows, ∀ v ∈ row, v.isWritable = true := by
  obtain ⟨-, rows⟩ := lists
  rename_i name entries headings rows'
  generalize found : Keyed.get? entries "data" = data at rows
  cases rows with
  | missing | notGiven => exact List.forall_mem_nil _
  | given _ taken each =>
    have items := isWritable_of_parts? (Value.isWritable_of_get? writable found) taken
    intro row member
    obtain ⟨item, present, taken⟩ := exists_of_forall₂ each row member
    exact isWritable_of_parts? (items item present) taken

theorem Dataset.isWritable_of_ofValue {v : Value} {dataset : Dataset}
    (loaded : ofValue v = .ok dataset) (writable : v.isWritable = true) :
    ∀ database ∈ dataset.databases, ∀ sheet ∈ database.2, ∀ row ∈ sheet.rows,
      ∀ cell ∈ row, cell.isWritable = true := by
  obtain ⟨⟨given, each⟩, -⟩ := ofValue_eq_ok_iff.mp loaded
  have databases := Value.isWritable_mapping.mp (Value.isWritable_of_get? writable given)
  intro database present sheet member
  obtain ⟨entry, listed, ⟨tables, sheets⟩⟩ := exists_of_forall₂ each database present
  obtain ⟨table, there, lists⟩ := exists_of_forall₂ sheets sheet member
  have inside := Value.isWritable_mapping.mp (Value.isWritable_of_get? (databases _ listed) tables)
  exact lists.isWritable (inside _ there)

theorem Dataset.isWritable_of_ofFile {depth : Nat} {content : Option Text} {dataset : Dataset}
    (loaded : ofFile depth content = .ok dataset) :
    ∀ database ∈ dataset.databases, ∀ sheet ∈ database.2, ∀ row ∈ sheet.rows,
      ∀ cell ∈ row, cell.isWritable = true := by
  unfold ofFile at loaded
  split at loaded
  · cases loaded
  · cases loaded
  · cases loaded
  · rename_i v given
    obtain ⟨text, -, document⟩ := Option.map_eq_some_iff.mp given
    exact isWritable_of_ofValue (mapError_ok_iff.mp loaded) (Json.isWritable_of_read document)

def Table.IsWritable (table : Table) : Prop :=
  ∀ cells ∈ table.rows, ∀ v ∈ cells, v.isWritable = true

def Table.ColumnIsWritable (table : Table) (index : Nat) : Prop :=
  ∀ cells ∈ table.rows, ∀ v ∈ cells[index]?, v.isWritable = true

instance (table : Table) : Decidable table.IsWritable :=
  inferInstanceAs (Decidable (∀ cells ∈ table.rows, ∀ v ∈ cells, v.isWritable = true))

instance (table : Table) (index : Nat) : Decidable (table.ColumnIsWritable index) :=
  inferInstanceAs (Decidable (∀ cells ∈ table.rows, ∀ v ∈ cells[index]?, v.isWritable = true))

theorem Catalog.isWritable_of_ofFile {depth : Nat} {content : Option Text} {dataset : Dataset}
    {catalog : Catalog} (loaded : Dataset.ofFile depth content = .ok dataset)
    (made : ofDataset dataset = .ok catalog) :
    ∀ database ∈ catalog.databases, ∀ table ∈ database.tables, table.IsWritable := by
  intro database present table member
  have sheets := Dataset.isWritable_of_ofFile loaded
  rw [← dataset_of_ofDataset made] at sheets
  exact sheets _ (List.mem_map_of_mem present) _ (List.mem_map_of_mem member)

end SqlConsole
