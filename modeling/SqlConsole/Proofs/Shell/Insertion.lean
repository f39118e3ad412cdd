import Mathlib.Data.List.Forall2
import SqlConsole.Catalog.Bundled
import SqlConsole.Proofs.Suggestion.Sources
import SqlConsole.Proofs.Text.Ascii
import SqlConsole.Shell.Console

/-!
# What a completion inserts

Only the part of a line between two places is replaced by what completes it, wherever in the word
that is being typed this part starts. In ASCII the word becomes a candidate up to case, and keeps
what stands before the part (`completions_insert`).
-/

namespace SqlConsole

open Suggestion (IsOffered)

structure Catalog.IsAscii (catalog : Catalog) : Prop where
  databases : ∀ database ∈ catalog.databases, database.name.IsAscii
  tables : ∀ database ∈ catalog.databases, ∀ table ∈ database.tables, table.name.IsAscii
  columns : ∀ database ∈ catalog.databases, ∀ table ∈ database.tables,
    ∀ column ∈ table.columns, column.IsAscii

variable {catalog : Catalog}

namespace Suggestion

variable {context candidate : Text}

theorem IsOffered.isAscii (offered : IsOffered catalog context candidate)
    (ascii : catalog.IsAscii) (contextAscii : context.IsAscii) : candidate.IsAscii := by
  cases offered with
  | command member =>
    have all : ∀ t ∈ metaCommands, t.IsAscii := by decide
    exact all _ member
  | keyword member =>
    have all : ∀ t ∈ keywords, t.IsAscii := by decide
    exact all _ member
  | database member =>
    obtain ⟨database, inside, rfl⟩ := List.mem_map.mp member
    exact ascii.databases database inside
  | table inside member =>
    obtain ⟨table, present, rfl⟩ := List.mem_map.mp member
    exact ascii.tables _ inside table present
  | column inside present member => exact ascii.columns _ inside _ present _ member
  | qualified inside present member called =>
    have point : Text.IsAscii "." := by decide
    exact ((contextAscii.of_subset called).append point).append
      (ascii.columns _ inside _ present _ member)

theorem suffix_currentWord (cs : Text) : currentWord cs <:+ cs := by
  rw [← List.reverse_prefix, currentWord, List.reverse_reverse]
  exact List.takeWhile_prefix _

theorem prefix_of_mem_complete {text : Text} {name : Option Text} (ascii : catalog.IsAscii)
    (textAscii : text.IsAscii) (member : candidate ∈ complete catalog text name) :
    candidate.IsAscii ∧
      (currentWord text).map CodePoint.lower <+: candidate.map CodePoint.lower := by
  obtain ⟨listed, starts⟩ := List.mem_filter.mp (List.mem_eraseDups.mp member)
  have contextAscii : (contextOf text).IsAscii :=
    textAscii.lower.of_subset (List.dropWhile_suffix _).subset
  have candidateAscii := (isOffered_of_mem listed).isAscii ascii contextAscii
  have wordAscii := textAscii.of_subset (suffix_currentWord text).subset
  rw [List.isPrefixOf_iff_prefix, wordAscii.lower_eq, candidateAscii.lower_eq] at starts
  exact ⟨candidateAscii, starts⟩

end Suggestion

namespace Shell.Console

variable {c : Console} {line : Text} {start stop : Nat}

def replaced (line : Text) (start stop : Nat) (part : Text) : Text :=
  line.take start ++ part ++ line.drop stop

theorem lower_append_drop {typed text candidate : Text} (typedAscii : typed.IsAscii)
    (candidateAscii : candidate.IsAscii)
    (starts : (typed ++ text).map CodePoint.lower <+: candidate.map CodePoint.lower) :
    (typed ++ candidate.drop typed.length).length = candidate.length ∧
      Text.lower (typed ++ candidate.drop typed.length) = candidate.lower := by
  obtain ⟨rest, whole⟩ := starts
  have fits : typed.length ≤ candidate.length := by
    have lengths := congrArg List.length whole
    simp only [List.length_append, List.length_map] at lengths
    omega
  have restAscii := candidateAscii.of_subset (List.drop_suffix typed.length candidate).subset
  constructor
  · rw [List.length_append, List.length_drop]
    omega
  · rw [(typedAscii.append restAscii).lower_eq, candidateAscii.lower_eq, List.map_append,
      List.map_drop, ← whole, List.map_append, List.append_assoc,
      List.drop_left' (List.length_map _)]

theorem exists_typed {before : Text}
    (fits : (before.drop start).length ≤ (Suggestion.currentWord before).length) :
    ∃ front typed : Text, before = front ++ Suggestion.currentWord before ∧
      before.take start = front ++ typed ∧
      Suggestion.currentWord before = typed ++ before.drop start := by
  obtain ⟨typed, word⟩ := List.suffix_of_suffix_length_le (List.drop_suffix start before)
    (Suggestion.suffix_currentWord before) fits
  obtain ⟨front, whole⟩ := Suggestion.suffix_currentWord before
  refine ⟨front, typed, whole.symm, ?_, word.symm⟩
  have cut := whole.trans (List.take_append_drop start before).symm
  rw [← word, ← List.append_assoc] at cut
  exact (List.append_cancel_right cut).symm

theorem completeSql_eq (text line : Text) (stop : Nat) (c : Console) :
    c.completeSql catalog text line stop =
      (c.session.complete catalog (line.take stop)).map
        (·.drop ((Suggestion.currentWord (line.take stop)).length - text.length)) := rfl

/-- Let a part of a line be completed in the console, from `start` up to the cursor at `stop`, that
is not longer than the word that is being typed. If the line and the names in the catalog are in
ASCII, there is one completion for each candidate, in their order, and with it in place of the part
the word is the candidate up to case, and has kept what stands before the part. -/
theorem completions_insert (sql : c.sqlMode = true) (ascii : catalog.IsAscii)
    (lineAscii : line.IsAscii) (order : start ≤ stop)
    (fits : ((line.take stop).drop start).length ≤
      (Suggestion.currentWord (line.take stop)).length) :
    ∃ front typed : Text,
      line.take start = front ++ typed ∧
      Suggestion.currentWord (line.take stop) = typed ++ (line.take stop).drop start ∧
      line = front ++ Suggestion.currentWord (line.take stop) ++ line.drop stop ∧
      c.completeRest catalog ((line.take stop).drop start) line stop =
        c.completeNames catalog ((line.take stop).drop start) line stop ∧
      List.Forall₂
        (fun candidate out =>
          replaced line start stop out = front ++ (typed ++ out) ++ line.drop stop ∧
            (typed ++ out).length = candidate.length ∧
            Text.lower (typed ++ out) = candidate.lower)
        (c.session.complete catalog (line.take stop))
        (c.completeNames catalog ((line.take stop).drop start) line stop) := by
  obtain ⟨front, typed, whole, before, word⟩ := exists_typed fits
  rw [List.take_take, Nat.min_eq_left order] at before
  have offset : (Suggestion.currentWord (line.take stop)).length -
      ((line.take stop).drop start).length = typed.length := by
    rw [word, List.length_append, Nat.add_sub_cancel]
  have typedAscii : typed.IsAscii := by
    have kept : typed <:+ line.take start := ⟨front, before.symm⟩
    exact lineAscii.of_subset (List.Subset.trans kept.subset (List.take_subset start line))
  refine ⟨front, typed, before, word, ?_, ?_, ?_⟩
  · rw [← whole, List.take_append_drop]
  · rw [completeRest, completeNames, if_pos sql, if_pos sql]
  · rw [completeNames, if_pos sql, completeSql_eq, offset, List.forall₂_map_right_iff,
      List.forall₂_same]
    intro candidate member
    obtain ⟨candidateAscii, starts⟩ := Suggestion.prefix_of_mem_complete ascii
      (lineAscii.of_subset (List.take_subset _ _)) member
    rw [word] at starts
    refine ⟨?_, lower_append_drop typedAscii candidateAscii starts⟩
    rw [replaced, before, List.append_assoc front]

/-- A column is completed behind the point, where its alias has been typed in capitals. -/
theorem completions_insert_column :
    ∃ out front typed : Text,
      completeNames .bundled "NA" "select * from engineers e where E.NA;" 36
        { session := { database := some "career_db" }, sqlMode := true } = [out] ∧
      replaced "select * from engineers e where E.NA;" 34 36 out = front ++ (typed ++ out) ++ ";" ∧
      Text.lower (typed ++ out) = "e.name" := by
  have ascii : Catalog.IsAscii .bundled :=
    ⟨by decide +kernel, by decide +kernel, by decide +kernel⟩
  have offered : Session.complete .bundled "select * from engineers e where E.NA"
      { database := some "career_db" } = [Text.ofString "e.name"] := by decide +kernel
  obtain ⟨front, typed, -, -, -, -, inserted⟩ := @completions_insert .bundled
    { session := { database := some "career_db" }, sqlMode := true }
    "select * from engineers e where E.NA;" 34 36 rfl ascii (by decide +kernel) (by decide)
    (by decide +kernel)
  have before : List.take 36 (Text.ofString "select * from engineers e where E.NA;") =
      "select * from engineers e where E.NA" := by decide +kernel
  have part : List.drop 34 (Text.ofString "select * from engineers e where E.NA") = "NA" := by
    decide +kernel
  rw [before, part, offered] at inserted
  obtain ⟨out, outs, ⟨replacement, -, same⟩, rest, completions⟩ :=
    List.forall₂_cons_left_iff.mp inserted
  rw [List.forall₂_nil_left_iff.mp rest] at completions
  exact ⟨out, front, typed, completions, replacement, same⟩

end Shell.Console

end SqlConsole
