import SqlConsole.Proofs.Suggestion.Scan
import SqlConsole.Suggestion.Candidates

/-!
# Where candidates come from

A candidate is a word that is always there, a name in the catalog or a column, alone or behind an
alias of the text (`isOffered_of_mem`).
-/

namespace SqlConsole.Suggestion

variable {cs rest word name candidate : Text} {before : Option CodePoint} {reference : Reference}

/-! ### Aliases -/

theorem suffix_of_afterBlanks? (read : afterBlanks? cs = some rest) : rest <:+ cs := by
  rw [← (afterBlanks?_eq_some_iff.mp read).2]
  exact List.dropWhile_suffix _

theorem suffix_of_afterWord? (read : afterWord? word before cs = some rest) : rest <:+ cs := by
  rw [← (afterWord?_eq_some_iff.mp read).2]
  exact List.suffix_append _ _

theorem wordRun?_eq_some (read : wordRun? cs = some (word, rest)) : cs = word ++ rest := by
  unfold wordRun? at read
  split at read
  · cases read
  · cases read
    exact List.takeWhile_append_dropWhile.symm

theorem subset_of_tableAlias? (read : tableAlias? cs = some (name, rest)) : name ⊆ cs := by
  unfold tableAlias? at read
  obtain ⟨behind, blanks, read⟩ := Option.bind_eq_some_iff.mp read
  have inside := suffix_of_afterBlanks? blanks
  split at read
  · rename_i found marked
    cases read
    obtain ⟨mark, word, marked⟩ := Option.bind_eq_some_iff.mp marked
    obtain ⟨run, gap, named⟩ := Option.bind_eq_some_iff.mp marked
    have within := (suffix_of_afterBlanks? gap).trans ((suffix_of_afterWord? word).trans inside)
    rw [wordRun?_eq_some named] at within
    exact List.Subset.trans (List.subset_append_left _ _) within.subset
  · rw [wordRun?_eq_some read] at inside
    exact List.Subset.trans (List.subset_append_left _ _) inside.subset

theorem subset_of_reference? (read : reference? cs = some (reference, rest)) :
    ∀ name ∈ reference.tableAlias, name ⊆ cs := by
  unfold reference? at read
  obtain ⟨behind, blanks, read⟩ := Option.bind_eq_some_iff.mp read
  obtain ⟨⟨table, remaining⟩, named, read⟩ := Option.bind_eq_some_iff.mp read
  have inside := suffix_of_afterBlanks? blanks
  rw [wordRun?_eq_some named] at inside
  dsimp only at read
  split at read
  · rename_i found called
    cases read
    rintro name ⟨⟩
    apply List.Subset.trans (subset_of_tableAlias? called)
    exact List.Subset.trans (List.subset_append_right _ _) inside.subset
  · cases read
    exact nofun

theorem subset_of_mem_referencesFrom {skip : Nat}
    (member : reference ∈ referencesFrom word before skip cs) :
    ∀ name ∈ reference.tableAlias, name ⊆ cs := by
  induction cs generalizing before skip with
  | nil => simp [referencesFrom] at member
  | cons c cs ih =>
    have later : ∀ {skip}, reference ∈ referencesFrom word (some c) skip cs →
        ∀ name ∈ reference.tableAlias, name ⊆ c :: cs :=
      fun member name called =>
        List.Subset.trans (ih member name called) (List.subset_cons_self c cs)
    cases skip with
    | succ skip => exact later member
    | zero =>
      simp only [referencesFrom] at member
      split at member
      · rename_i found read
        rcases List.mem_cons.mp member with rfl | member
        · obtain ⟨behind, introduced, read⟩ := Option.bind_eq_some_iff.mp read
          intro name called
          apply List.Subset.trans (subset_of_reference? read name called)
          exact (suffix_of_afterWord? introduced).subset
        · exact later member
      · exact later member

theorem subset_of_mem_tableReferences (member : reference ∈ tableReferences cs) :
    ∀ name ∈ reference.tableAlias, name ⊆ cs := by
  obtain ⟨found, scanned, rfl⟩ := List.mem_map.mp member
  intro name called
  have kept : name ∈ found.tableAlias := (Option.filter_eq_some_iff.mp called).1
  rcases List.mem_append.mp scanned with first | joined
  · exact subset_of_mem_referencesFrom
      (List.mem_of_mem_head? (Option.mem_toList.mp first)) name kept
  · exact subset_of_mem_referencesFrom joined name kept

/-! ### Candidates -/

inductive IsOffered (catalog : Catalog) (context : Text) : Text → Prop
  | command {t : Text} (member : t ∈ metaCommands) : IsOffered catalog context t
  | keyword {t : Text} (member : t ∈ keywords) : IsOffered catalog context t
  | database {t : Text} (member : t ∈ catalog.databaseNames) : IsOffered catalog context t
  | table {t : Text} {database : Database} (inside : database ∈ catalog.databases)
      (member : t ∈ database.tableNames) : IsOffered catalog context t
  | column {t : Text} {database : Database} {table : Table} (inside : database ∈ catalog.databases)
      (present : table ∈ database.tables) (member : t ∈ table.columns) : IsOffered catalog context t
  | qualified {name t : Text} {database : Database} {table : Table}
      (inside : database ∈ catalog.databases) (present : table ∈ database.tables)
      (member : t ∈ table.columns) (called : name ⊆ context) :
      IsOffered catalog context (name ++ "." ++ t)

variable {catalog : Catalog} {database : Database}

theorem isOffered_of_mem_referenced (inside : database ∈ catalog.databases)
    (member : candidate ∈ referencedColumns (tableReferences cs) database) :
    IsOffered catalog cs candidate := by
  obtain ⟨reference, referred, member⟩ := List.mem_flatMap.mp member
  split at member
  · cases member
  rename_i table found
  have present : table ∈ database.tables := List.mem_of_find?_eq_some found
  rcases List.mem_append.mp member with qualified | plain
  · split at qualified
    · rename_i name called
      obtain ⟨column, listed, rfl⟩ := List.mem_map.mp qualified
      exact .qualified inside present listed (subset_of_mem_tableReferences referred name called)
    · cases qualified
  · exact .column inside present plain

theorem isOffered_of_mem_database (inside : database ∈ catalog.databases)
    (member : candidate ∈ databaseCandidates cs database) : IsOffered catalog cs candidate := by
  unfold databaseCandidates at member
  have referenced : candidate ∈ referencedColumns (tableReferences cs) database →
      IsOffered catalog cs candidate := isOffered_of_mem_referenced inside
  dsimp only at member
  split at member
  · exact .table inside member
  split at member
  · exact referenced member
  split at member
  · exact .table inside member
  split at member
  · exact referenced member
  split at member
  · split at member
    · obtain ⟨table, present, member⟩ := List.mem_flatMap.mp member
      exact .column inside present member
    · exact referenced member
  · exact .keyword member

theorem isOffered_of_mem {name : Option Text} (member : candidate ∈ candidates catalog cs name) :
    IsOffered catalog cs candidate := by
  unfold candidates at member
  split at member
  · exact .command member
  split at member
  · exact .database member
  split at member
  · cases member
  · rename_i database found
    obtain ⟨current, -, found⟩ := Option.bind_eq_some_iff.mp found
    exact isOffered_of_mem_database (List.mem_of_find?_eq_some found) member

end SqlConsole.Suggestion
