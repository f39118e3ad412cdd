import SqlConsole.Catalog
import SqlConsole.Proofs.Catalog.Listing

/-!
# Loading a catalog

The sheets of a dataset are sound, so a dataset whose headings are all text becomes a catalog
(`Catalog.exists_ofDataset`).
-/

namespace SqlConsole

theorem Value.mapM_text?_eq_some_iff {vs : List Value} {ts : List Text} :
    vs.mapM text? = some ts ↔ vs = ts.map .text := by
  have each (v : Value) (t : Text) : v.text? = some t ↔ v = .text t := by
    cases v <;> simp [text?]
  simp only [mapM_some_iff, each]
  rw [← List.forall₂_eq_eq_eq, List.forall₂_map_right_iff]

theorem Value.exists_texts {vs : List Value} (texts : ∀ v ∈ vs, v.text?.isSome = true) :
    ∃ ts : List Text, vs = ts.map .text := by
  induction vs with
  | nil => exact ⟨[], rfl⟩
  | cons v vs ih =>
    obtain ⟨first, others⟩ := List.forall_mem_cons.mp texts
    obtain ⟨ts, rfl⟩ := ih others
    cases v with
    | text t => exact ⟨t :: ts, rfl⟩
    | _ => cases first

theorem Table.exists_ofSheet {sheet : Sheet} (checked : sheet.IsChecked)
    (texts : ∀ heading ∈ sheet.headings, heading.text?.isSome = true) :
    ∃ table, ofSheet sheet = .ok table := by
  obtain ⟨names, same⟩ := Value.exists_texts texts
  have distinct : names.Pairwise (· ≠ ·) :=
    Sheet.distinctHeadings_map_text.mp (same ▸ checked.distinct)
  have aligned : ∀ row ∈ sheet.rows, row.length = names.length := by
    intro row member
    rw [checked.aligned row member, same, List.length_map]
  unfold ofSheet build
  rw [Value.mapM_text?_eq_some_iff.mpr same]
  dsimp only
  rw [dif_pos distinct, dif_pos aligned]
  exact ⟨_, rfl⟩

theorem Catalog.exists_ofDataset {v : Value} {dataset : Dataset}
    (loaded : Dataset.ofValue v = .ok dataset)
    (texts : ∀ database ∈ dataset.databases, ∀ sheet ∈ database.2, ∀ heading ∈ sheet.headings,
      heading.text?.isSome = true) :
    ∃ catalog, ofDataset dataset = .ok catalog := by
  obtain ⟨-, sound⟩ := Dataset.ofValue_eq_ok_iff.mp loaded
  refine bind_succeeds (mapM_succeeds_iff.mpr ?_) fun databases => ⟨⟨databases⟩, rfl⟩
  intro database present
  refine bind_succeeds (mapM_succeeds_iff.mpr ?_) fun tables => ⟨⟨database.1, tables⟩, rfl⟩
  intro sheet member
  exact Table.exists_ofSheet (sound database present sheet member).toIsChecked
    (texts database present sheet member)

end SqlConsole
