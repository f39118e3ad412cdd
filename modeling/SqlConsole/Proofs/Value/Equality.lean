import SqlConsole.Proofs.Value.Order
import Mathlib.Data.List.Forall2

/-!
# Equal values

A value that keeps each key once and holds nothing that is not a number equals itself
(`Value.same_self`). Mappings are equal if they list equal entries under the same keys
(`Value.same_mapping`).
-/

namespace SqlConsole

theorem Number.same_self {a : Number} (number : a.isNumber) : a.same a = true := by
  rw [Number.same, Number.compare?_eq_eq_iff.mpr ⟨number, number, rfl⟩]
  rfl

namespace Value

inductive IsProper : Value → Prop
  | null : IsProper .null
  | bool (b : Bool) : IsProper (.bool b)
  | integer (n : Int) : IsProper (.integer n)
  | real {x : Binary64} : (∀ object, x ≠ .nan object) → IsProper (.real x)
  | text (t : Text) : IsProper (.text t)
  | list {items : List Value} : (∀ item ∈ items, IsProper item) → IsProper (.list items)
  | mapping {entries : List (Text × Value)} : Keyed.Distinct entries →
      (∀ entry ∈ entries, IsProper entry.2) → IsProper (.mapping entries)

attribute [simp] IsProper.null IsProper.bool IsProper.integer IsProper.text

@[simp] theorem isProper_list_iff {items : List Value} :
    (list items).IsProper ↔ ∀ item ∈ items, item.IsProper :=
  ⟨fun | .list each => each, .list⟩

@[simp] theorem isProper_mapping_iff {entries : List (Text × Value)} :
    (mapping entries).IsProper ↔ Keyed.Distinct entries ∧ ∀ entry ∈ entries, entry.2.IsProper :=
  ⟨fun | .mapping distinct each => ⟨distinct, each⟩, fun both => .mapping both.1 both.2⟩

theorem IsProper.of_get? {entries : List (Text × Value)} {key : Text} {v : Value}
    (proper : (Value.mapping entries).IsProper) (found : Keyed.get? entries key = some v) :
    v.IsProper :=
  (isProper_mapping_iff.mp proper).2 _ (Keyed.mem_of_get? found)

theorem sameItems_self {items : List Value} (each : ∀ item ∈ items, item.same item = true) :
    sameItems items items = true := by
  induction items with
  | nil => rw [sameItems]
  | cons item items ih =>
    obtain ⟨first, others⟩ := List.forall_mem_cons.mp each
    rw [sameItems, first, ih others]
    rfl

theorem sameEntries_of_forall₂ {es gs fs : List (Text × Value)}
    (found : ∀ g ∈ gs, Keyed.get? fs g.1 = some g.2)
    (each : List.Forall₂ (fun e g => e.1 = g.1 ∧ e.2.same g.2 = true) es gs) :
    sameEntries es fs = true := by
  induction each with
  | nil => rw [sameEntries]
  | cons related _ ih =>
    obtain ⟨key, equal⟩ := related
    obtain ⟨first, others⟩ := List.forall_mem_cons.mp found
    rw [sameEntries, key, first, ih others]
    simp [equal]

theorem same_mapping {es fs : List (Text × Value)} (distinct : Keyed.Distinct fs)
    (each : List.Forall₂ (fun e f => e.1 = f.1 ∧ e.2.same f.2 = true) es fs) :
    (mapping es).same (mapping fs) = true := by
  rw [same, each.length_eq, sameEntries_of_forall₂ (fun _ => distinct.get?_of_mem) each]
  simp

theorem same_self {v : Value} (proper : v.IsProper) : v.same v = true := by
  induction proper with
  | null => rw [same]
  | bool b => simpa [same, quantity?] using Number.same_self rfl
  | integer n => simpa [same, quantity?, number?] using Number.same_self rfl
  | @real x isNumber =>
    have placed : (Number.real x).isNumber = true := by
      cases x with
      | nan object => exact absurd rfl (isNumber object)
      | infinite negative => cases negative <;> rfl
      | finite negative m e => rfl
    simpa [same, quantity?, number?] using Number.same_self placed
  | text t => simp [same]
  | list _ ih =>
    rw [same]
    exact sameItems_self ih
  | mapping distinct _ ih =>
    refine same_mapping distinct (List.forall₂_same.mpr fun entry member => ?_)
    exact ⟨rfl, ih entry member⟩

theorem same_nested {α : Type} {R : Text × Value → α → Prop} {write : α → Text × Value}
    {key : Text} {entries : List (Text × Value)} {items : List α}
    (proper : (mapping [(key, mapping entries)]).IsProper)
    (related : List.Forall₂ R entries items)
    (each : ∀ entry ∈ entries, entry.2.IsProper → ∀ item, R entry item →
      (write item).1 = entry.1 ∧ (write item).2.same entry.2 = true) :
    (mapping [(key, mapping (items.map write))]).same (mapping [(key, mapping entries)]) =
      true := by
  obtain ⟨lone, inner⟩ := isProper_mapping_iff.mp proper
  obtain ⟨distinct, proper⟩ := isProper_mapping_iff.mp (inner _ List.mem_cons_self)
  refine same_mapping lone (.cons ⟨rfl, same_mapping distinct ?_⟩ .nil)
  refine List.forall₂_map_left_iff.mpr (List.Forall₂.flip ?_)
  refine ((List.forall₂_and_left _ _).mpr ⟨fun _ member => member, related⟩).imp ?_
  rintro entry item ⟨member, relates⟩
  exact each entry member (proper entry member) item relates

end Value

end SqlConsole
