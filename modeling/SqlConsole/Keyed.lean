import SqlConsole.Text.Basic

/-!
# Entries by key

A list of entries in the order in which their keys were first put. Each key occurs once.
-/

namespace SqlConsole.Keyed

def get? {α : Type} : List (Text × α) → Text → Option α
  | [], _ => none
  | (k, v) :: rest, key => if k = key then some v else get? rest key

/-- Gives a key its entry: in the place of the old one if there is one, otherwise at the end. -/
def put {α : Type} : List (Text × α) → Text → α → List (Text × α)
  | [], key, value => [(key, value)]
  | (k, v) :: rest, key, value =>
    if k = key then (key, value) :: rest else (k, v) :: put rest key value

/-- Puts entries one after another: the last entry of a key stays, in the place of the first. -/
def ofList {α : Type} (entries : List (Text × α)) : List (Text × α) :=
  entries.foldl (fun kept (key, value) => put kept key value) []

def Distinct {α : Type} (entries : List (Text × α)) : Prop := (entries.map (·.1)).Nodup

/-! ### Entries and their keys -/

theorem mem_of_get? {α : Type} {entries : List (Text × α)} {key : Text} {value : α}
    (found : get? entries key = some value) : (key, value) ∈ entries := by
  induction entries with
  | nil => cases found
  | cons e rest ih =>
    obtain ⟨k, v⟩ := e
    rw [get?] at found
    split at found
    · rename_i same
      cases found
      exact same ▸ List.mem_cons_self
    · exact List.mem_cons_of_mem _ (ih found)

theorem Distinct.get?_of_mem {α : Type} {entries : List (Text × α)} {key : Text} {value : α}
    (distinct : Distinct entries) (member : (key, value) ∈ entries) :
    get? entries key = some value := by
  induction entries with
  | nil => cases member
  | cons e rest ih =>
    obtain ⟨absent, rest_distinct⟩ := List.nodup_cons.mp distinct
    rw [get?]
    rcases List.mem_cons.mp member with rfl | later
    · exact if_pos rfl
    · have apart : e.1 ≠ key := by
        rintro rfl
        exact absent (List.mem_map.mpr ⟨_, later, rfl⟩)
      rw [if_neg apart]
      exact ih rest_distinct later

/-! ### What `put` does to the keys and the entries -/

theorem get?_put_self {α : Type} (entries : List (Text × α)) (key : Text) (value : α) :
    get? (put entries key value) key = some value := by
  induction entries with
  | nil => simp [put, get?]
  | cons e rest ih =>
    obtain ⟨k, v⟩ := e
    by_cases h : k = key
    · simp [put, h, get?]
    · simp [put, h, get?, ih]

theorem get?_put_of_ne {α : Type} (entries : List (Text × α)) {key other : Text} (value : α)
    (h : other ≠ key) : get? (put entries key value) other = get? entries other := by
  induction entries with
  | nil => simp [put, get?, h.symm]
  | cons e rest ih =>
    obtain ⟨k, v⟩ := e
    by_cases hk : k = key
    · subst hk
      simp [put, get?, h.symm]
    · simp [put, hk, get?, ih]

theorem mem_of_mem_put {α : Type} {entries : List (Text × α)} {key : Text} {value : α}
    {e : Text × α} (member : e ∈ put entries key value) : e = (key, value) ∨ e ∈ entries := by
  induction entries with
  | nil => exact .inl (List.mem_singleton.mp member)
  | cons first rest ih =>
    rw [put] at member
    split at member
    · exact (List.mem_cons.mp member).imp_right (List.mem_cons_of_mem _)
    · rcases List.mem_cons.mp member with rfl | later
      · exact .inr List.mem_cons_self
      · exact (ih later).imp_right (List.mem_cons_of_mem _)

theorem mem_of_mem_foldl_put {α : Type} {entries kept : List (Text × α)} {e : Text × α}
    (member : e ∈ entries.foldl (fun kept (key, value) => put kept key value) kept) :
    e ∈ entries ∨ e ∈ kept := by
  induction entries generalizing kept with
  | nil => exact .inr member
  | cons first rest ih =>
    rcases ih member with later | before
    · exact .inl (List.mem_cons_of_mem _ later)
    · exact (mem_of_mem_put before).imp_left (by rintro rfl; exact List.mem_cons_self)

theorem mem_of_mem_ofList {α : Type} {entries : List (Text × α)} {e : Text × α}
    (member : e ∈ ofList entries) : e ∈ entries :=
  (mem_of_mem_foldl_put member).resolve_right List.not_mem_nil

theorem get?_foldl_put {α : Type} (entry : Text → Option α) (entries kept : List (Text × α))
    (given : ∀ e ∈ entries, entry e.1 = some e.2) (key : Text) :
    get? (entries.foldl (fun kept (key, value) => put kept key value) kept) key =
      if key ∈ entries.map (·.1) then entry key else get? kept key := by
  induction entries generalizing kept with
  | nil => simp
  | cons e rest ih =>
    obtain ⟨k, v⟩ := e
    obtain ⟨first, others⟩ := List.forall_mem_cons.mp given
    rw [List.foldl_cons, ih _ others, List.map_cons]
    by_cases later : key ∈ rest.map (·.1)
    · simp [later]
    · by_cases same : key = k
      · subst same
        simp [later, get?_put_self, first]
      · simp [later, same, get?_put_of_ne kept v same]

theorem get?_ofList {α : Type} (entry : Text → Option α) {entries : List (Text × α)}
    (given : ∀ e ∈ entries, entry e.1 = some e.2) {key : Text} (present : key ∈ entries.map (·.1)) :
    get? (ofList entries) key = entry key := by
  rw [ofList, get?_foldl_put entry entries [] given, if_pos present]

end SqlConsole.Keyed
