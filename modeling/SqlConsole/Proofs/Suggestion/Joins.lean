import SqlConsole.Proofs.Suggestion.Scan

/-!
# References of a selection with joins

A selection from a table that others are joined to (`selectText`), and the references that are found
in it (`tableReferences_selectText`). The scan reads the word behind a table for its alias, so a
join that has neither alias nor condition hides the join behind it (`seen`).
-/

namespace SqlConsole.Suggestion

/-- What is written behind the name of a table: nothing, an alias, or an alias behind the word that
marks it. -/
inductive Naming where
  | bare
  | plain (name : Text)
  | marked (name : Text)

structure Source where
  table : Text
  naming : Naming

structure Join where
  source : Source
  condition : Option (Text × Text)

namespace Naming

def text : Naming → Text
  | bare => []
  | plain name => ' ' :: name
  | marked name => Text.ofString " as " ++ name

def alias? : Naming → Option Text
  | bare => none
  | plain name => some name
  | marked name => some name

def IsWritten (naming : Naming) : Prop := ∀ name ∈ naming.alias?, IsRun name ∧ name ∉ reservedWords

instance (naming : Naming) : Decidable naming.IsWritten :=
  inferInstanceAs (Decidable (∀ name ∈ naming.alias?, _))

end Naming

namespace Source

def text (source : Source) : Text := ' ' :: (source.table ++ source.naming.text)

def reference (source : Source) : Reference := ⟨source.table, source.naming.alias?⟩

/-- The table is a word that does not introduce another one, and the alias one that is not
reserved. -/
def IsWritten (source : Source) : Prop :=
  IsRun source.table ∧ source.table ≠ "join" ∧ source.naming.IsWritten

instance (source : Source) : Decidable source.IsWritten := inferInstanceAs (Decidable (_ ∧ _))

end Source

namespace Join

def conditionText (join : Join) : Text :=
  match join.condition with
  | none => []
  | some (left, right) => Text.ofString " on " ++ (left ++ (Text.ofString " = " ++ right))

def text (join : Join) : Text :=
  Text.ofString " join" ++ (join.source.text ++ join.conditionText)

/-- The two sides of a condition have no blanks, and the right one does not end in the word that
introduces a table. -/
def IsWritten (join : Join) : Prop :=
  join.source.IsWritten ∧ ∀ condition ∈ join.condition,
    (∀ c ∈ condition.1, c.isBlank = false) ∧ (∀ c ∈ condition.2, c.isBlank = false) ∧
      lastWord condition.2.reverse ≠ "join"

instance (join : Join) : Decidable join.IsWritten := inferInstanceAs (Decidable (_ ∧ _))

/-- Whether neither an alias nor a condition stands between the table and the next join. -/
def isBare (join : Join) : Bool := join.source.naming.alias?.isNone && join.condition.isNone

end Join

def selectText (first : Source) (joins : List Join) : Text :=
  Text.ofString "select * from" ++ (first.text ++ joins.flatMap Join.text)

/-- The joins that are found: all but those behind a bare one that is found itself. -/
def seen : List Join → List Join
  | join :: next :: joins =>
    if join.isBare then join :: seen joins else join :: seen (next :: joins)
  | joins => joins

variable {word rest : Text} {source : Source} {join : Join} {joins : List Join}

/-! ### Passing over what is written -/

theorem Source.edge_text (source : Source) (rest : Text) : IsEdge (source.text ++ rest) :=
  .space _

theorem referencesAfter_pass_source (written : source.IsWritten) (edge : IsEdge rest) :
    referencesAfter "join" (source.text ++ rest) = referencesAfter "join" rest := by
  obtain ⟨table, naming⟩ := source
  obtain ⟨run, unlike, named⟩ := written
  have runJoin : IsRun "join" := by decide
  have other : ∀ name ∈ naming.alias?, IsRun name ∧ name ≠ "join" := fun name given =>
    ⟨(named name given).1, fun same => (named name given).2 (by rw [same]; decide)⟩
  cases naming with
  | bare =>
    simp only [Source.text, Naming.text, List.append_nil, List.cons_append]
    exact referencesAfter_word runJoin run unlike edge
  | plain name =>
    obtain ⟨runName, unlikeName⟩ := other name rfl
    simp only [Source.text, Naming.text, List.cons_append, List.append_assoc]
    rw [referencesAfter_word runJoin run unlike (.space _),
      referencesAfter_word runJoin runName unlikeName edge]
  | marked name =>
    obtain ⟨runName, unlikeName⟩ := other name rfl
    have mark : Text.ofString " as " ++ (name ++ rest) =
        .char ' ' :: (Text.ofString "as" ++ .char ' ' :: (name ++ rest)) := rfl
    simp only [Source.text, Naming.text, List.cons_append, List.append_assoc, mark]
    rw [referencesAfter_word runJoin run unlike (.space _),
      referencesAfter_word runJoin (by decide) (by decide) (.space _),
      referencesAfter_word runJoin runName unlikeName edge]

theorem referencesAfter_pass_sides {left right : Text} (solidLeft : ∀ c ∈ left, c.isBlank = false)
    (solidRight : ∀ c ∈ right, c.isBlank = false) (other : lastWord right.reverse ≠ "join")
    (edge : IsEdge rest) :
    referencesAfter "join" (' ' :: (left ++ (Text.ofString " = " ++ (right ++ rest)))) =
      referencesAfter "join" rest := by
  have runJoin : IsRun "join" := by decide
  have sign : Text.ofString " = " ++ (right ++ rest) =
      .char ' ' :: (Text.ofString "=" ++ .char ' ' :: (right ++ rest)) := rfl
  have gap : IsEdge (Text.ofString " = " ++ (right ++ rest)) := .space _
  -- The left side may be the introducing word itself: no reference starts at the sign.
  have signless : reference? (Text.ofString " = " ++ (right ++ rest)) = none := rfl
  rw [referencesAfter_space runJoin, referencesAfter,
    referencesFrom_piece runJoin gap solidLeft (fun _ _ => .inr signless), sign,
    referencesAfter_piece runJoin (by decide) (by decide) (.space _),
    referencesAfter_piece runJoin solidRight other edge]

/-! ### What is read at an introducing word -/

/-- What follows a table that has no alias: nothing, or a reserved word. -/
inductive Follows : Text → Prop
  | nil : Follows []
  | word {w rest : Text} (run : IsRun w) (reserved : w ∈ reservedWords) (other : w ≠ "as")
      (edge : IsEdge rest) : Follows (' ' :: (w ++ rest))

theorem Follows.edge (follows : Follows rest) : IsEdge rest := by
  cases follows with
  | nil => exact .nil
  | word => exact .space _

/-- What is left of the text behind a table when its reference has been read. The word behind a
table without an alias is taken for one. -/
def Source.remaining (source : Source) (rest : Text) : Text :=
  match source.naming with
  | .bare => (tableAlias? rest).elim rest Prod.snd
  | _ => rest

theorem referencesAfter_source (runWord : IsRun word) (written : source.IsWritten)
    (follows : Follows rest) :
    ∃ reference, referencesAfter word (' ' :: (word ++ (source.text ++ rest))) =
        reference :: referencesAfter word (source.remaining rest) ∧
      reference.withoutReserved = source.reference := by
  obtain ⟨table, naming⟩ := source
  obtain ⟨run, -, named⟩ := written
  cases naming with
  | bare =>
    cases follows with
    | nil =>
      have read : reference? (' ' :: (table ++ [])) = some (⟨table, none⟩, []) := by
        rw [reference?_append run .nil]
        rfl
      have found := referencesAfter_found runWord (' ' :: (table ++ [])) .nil
        (by rwa [List.append_nil])
      exact ⟨_, found, rfl⟩
    | word runNext reserved other edge =>
      rename_i next rest
      have taken := tableAlias?_word runNext other edge
      refine ⟨⟨table, some next⟩, ?_, ?_⟩
      · simp only [Source.remaining, taken, Option.elim_some, Source.text, Naming.text,
          List.append_nil, List.cons_append]
        exact referencesAfter_aliased runWord (' ' :: next) run (.space _) edge taken
      · simp [Reference.withoutReserved, Source.reference, Naming.alias?, reserved]
  | plain name =>
    obtain ⟨runName, free⟩ := named name rfl
    have taken := tableAlias?_word runName (fun same => free (by rw [same]; decide)) follows.edge
    refine ⟨⟨table, some name⟩, ?_, ?_⟩
    · simp only [Source.text, Naming.text, List.cons_append, List.append_assoc]
      exact referencesAfter_aliased runWord (' ' :: name) run (.space _) follows.edge taken
    · simp [Reference.withoutReserved, Source.reference, Naming.alias?, free]
  | marked name =>
    obtain ⟨runName, free⟩ := named name rfl
    have taken := tableAlias?_marked runName follows.edge
    refine ⟨⟨table, some name⟩, ?_, ?_⟩
    · simp only [Source.text, Naming.text, List.cons_append, List.append_assoc]
      exact referencesAfter_aliased runWord (Text.ofString " as " ++ name) run (.space _)
        follows.edge taken
    · simp [Reference.withoutReserved, Source.reference, Naming.alias?, free]

/-! ### Joins -/

theorem Join.isBare_iff :
    join.isBare = true ↔ join.source.naming = .bare ∧ join.condition = none := by
  cases naming : join.source.naming <;> simp [Join.isBare, naming, Naming.alias?]

theorem Join.text_append (join : Join) (rest : Text) : join.text ++ rest =
    .char ' ' :: (Text.ofString "join" ++ (join.source.text ++ (join.conditionText ++ rest))) := by
  rw [Join.text, List.append_assoc, List.append_assoc]
  rfl

theorem Join.edge_conditionText (join : Join) (edge : IsEdge rest) :
    IsEdge (join.conditionText ++ rest) := by
  obtain ⟨source, condition⟩ := join
  cases condition with
  | none => exact edge
  | some sides => exact .space _

theorem follows_joins (joins : List Join) : Follows (joins.flatMap Join.text) := by
  cases joins with
  | nil => exact .nil
  | cons join joins =>
    rw [List.flatMap_cons, join.text_append]
    exact .word (by decide) (by decide) (by decide) (join.source.edge_text _)

theorem Join.conditionText_append {left right : Text} (given : join.condition = some (left, right))
    (rest : Text) : join.conditionText ++ rest = .char ' ' :: (Text.ofString "on" ++ .char ' ' ::
      (left ++ (Text.ofString " = " ++ (right ++ rest)))) := by
  simp only [Join.conditionText, given, List.append_assoc]
  rfl

theorem referencesAfter_pass_condition (written : join.IsWritten) (edge : IsEdge rest) :
    referencesAfter "join" (join.conditionText ++ rest) = referencesAfter "join" rest := by
  cases given : join.condition with
  | none => simp [Join.conditionText, given]
  | some sides =>
    obtain ⟨left, right⟩ := sides
    obtain ⟨solidLeft, solidRight, other⟩ := written.2 _ given
    rw [Join.conditionText_append given, referencesAfter_word (by decide) (by decide) (by decide)
      (.space _), referencesAfter_pass_sides solidLeft solidRight other edge]

/-- Behind a join that is the last, or has an alias or a condition, the scan goes on at what
follows. -/
theorem referencesAfter_remaining (written : join.IsWritten) (edge : IsEdge rest)
    (full : join.isBare = true → rest = []) :
    referencesAfter "join" (join.source.remaining (join.conditionText ++ rest)) =
      referencesAfter "join" rest := by
  cases naming : join.source.naming with
  | plain name | marked name =>
    simp only [Source.remaining, naming]
    exact referencesAfter_pass_condition written edge
  | bare =>
    cases given : join.condition with
    | none =>
      obtain rfl := full (Join.isBare_iff.mpr ⟨naming, given⟩)
      simp only [Source.remaining, naming, Join.conditionText, given]
      rfl
    | some sides =>
      obtain ⟨left, right⟩ := sides
      obtain ⟨solidLeft, solidRight, other⟩ := written.2 _ given
      -- The word that starts the condition is read for an alias.
      have taken := tableAlias?_word (w := "on") (by decide) (by decide)
        (.space (left ++ (Text.ofString " = " ++ (right ++ rest))))
      simp only [Source.remaining, naming, Join.conditionText_append given, taken, Option.elim_some]
      exact referencesAfter_pass_sides solidLeft solidRight other edge

theorem Join.follows_conditionText (join : Join) (follows : Follows rest) :
    Follows (join.conditionText ++ rest) := by
  cases given : join.condition with
  | none => simpa [Join.conditionText, given] using follows
  | some sides =>
    rw [Join.conditionText_append given]
    exact .word (by decide) (by decide) (by decide) (.space _)

theorem referencesAfter_join (written : join.IsWritten) (follows : Follows rest) :
    ∃ reference, referencesAfter "join" (join.text ++ rest) =
        reference :: referencesAfter "join" (join.source.remaining (join.conditionText ++ rest)) ∧
      reference.withoutReserved = join.source.reference := by
  rw [join.text_append]
  exact referencesAfter_source (by decide) written.1 (join.follows_conditionText follows)

theorem referencesAfter_remaining_bare {next : Join} (bare : join.isBare = true)
    (written : next.IsWritten) (edge : IsEdge rest) :
    referencesAfter "join" (join.source.remaining (join.conditionText ++ (next.text ++ rest))) =
      referencesAfter "join" rest := by
  obtain ⟨naming, given⟩ := Join.isBare_iff.mp bare
  have empty : join.conditionText = [] := by simp only [Join.conditionText, given]
  have taken := tableAlias?_word (w := "join") (by decide) (by decide)
    (next.source.edge_text (next.conditionText ++ rest))
  simp only [Source.remaining, naming, empty, List.nil_append, next.text_append, taken,
    Option.elim_some]
  rw [referencesAfter_pass_source written.1 (next.edge_conditionText edge),
    referencesAfter_pass_condition written edge]

theorem map_referencesAfter_joins (joins : List Join) (written : ∀ join ∈ joins, join.IsWritten) :
    (referencesAfter "join" (joins.flatMap Join.text)).map Reference.withoutReserved =
      (seen joins).map fun join => join.source.reference := by
  fun_induction seen joins with
  | case1 join next joins bare ih =>
    have later := follows_joins joins
    obtain ⟨reference, found, same⟩ :=
      referencesAfter_join (written join (by simp)) (follows_joins (next :: joins))
    rw [List.flatMap_cons, found, List.flatMap_cons,
      referencesAfter_remaining_bare bare (written next (by simp)) later.edge, List.map_cons, same,
      ih fun other member => written other (by simp [member]), List.map_cons]
  | case2 join next joins full ih =>
    have later := follows_joins (next :: joins)
    obtain ⟨reference, found, same⟩ := referencesAfter_join (written join (by simp)) later
    rw [List.flatMap_cons, found, referencesAfter_remaining (written join (by simp)) later.edge
      (absurd · full), List.map_cons, same,
      ih fun other member => written other (by simp [member]), List.map_cons]
  | case3 joins last =>
    match joins with
    | [] => rfl
    | [join] =>
      obtain ⟨reference, found, same⟩ := referencesAfter_join (written join (by simp)) .nil
      rw [List.flatMap_cons, List.flatMap_nil, found,
        referencesAfter_remaining (written join (by simp)) .nil fun _ => rfl, List.map_cons, same]
      rfl
    | join :: next :: joins => exact absurd rfl (last join next joins)

/-! ### The whole selection -/

theorem referencesAfter_select (run : IsRun word) (unlike : Text.ofString "select" ≠ word)
    (cs : Text) : referencesAfter word (Text.ofString "select * from" ++ cs) =
      referencesAfter word (' ' :: (Text.ofString "from" ++ cs)) := by
  have pieces : Text.ofString "select * from" ++ cs = Text.ofString "select" ++ .char ' ' ::
      (Text.ofString "*" ++ .char ' ' :: (Text.ofString "from" ++ cs)) := rfl
  have other : lastWord (Text.ofString "*").reverse ≠ word := fun same => run.1 same.symm
  rw [pieces, ← referencesAfter_space run, referencesAfter_word run (by decide) unlike (.space _),
    referencesAfter_piece run (by decide) other (.space _)]

theorem exists_tableReferences {table : Text} (run : IsRun table) (edge : IsEdge rest) :
    ∃ tableAlias others,
      tableReferences (Text.ofString "select * from" ++ .char ' ' :: (table ++ rest)) =
        ⟨table, tableAlias⟩ :: others := by
  obtain ⟨tableAlias, left, read⟩ : ∃ tableAlias left,
      reference? (' ' :: (table ++ rest)) = some (⟨table, tableAlias⟩, left) := by
    rw [reference?_append run edge]
    split
    · exact ⟨_, _, rfl⟩
    · exact ⟨_, _, rfl⟩
  have runFrom : IsRun "from" := by decide
  have first := head?_referencesAfter runFrom read
  rw [tableReferences, referencesAfter_select (by decide) (by decide), first]
  exact ⟨_, _, rfl⟩

theorem tableReferences_select {first : Source} (written : first.IsWritten)
    (follows : Follows rest) :
    tableReferences (Text.ofString "select * from" ++ (first.text ++ rest)) =
      first.reference :: (referencesAfter "join" rest).map Reference.withoutReserved := by
  have runFrom : IsRun "from" := by decide
  obtain ⟨reference, found, same⟩ := referencesAfter_source runFrom written follows
  have joined : referencesAfter "join"
      (.char ' ' :: (Text.ofString "from" ++ (first.text ++ rest))) =
        referencesAfter "join" rest := by
    rw [referencesAfter_word (by decide) (by decide) (by decide) (first.edge_text rest),
      referencesAfter_pass_source written follows.edge]
  rw [tableReferences, referencesAfter_select (by decide) (by decide),
    referencesAfter_select (by decide) (by decide), found, joined, List.head?_cons,
    Option.toList_some, List.singleton_append, List.map_cons, same]

theorem seen_sublist (joins : List Join) : (seen joins).Sublist joins := by
  fun_induction seen joins with
  | case1 join next joins bare ih => exact (ih.cons next).cons_cons join
  | case2 join next joins full ih => exact ih.cons_cons join
  | case3 joins last => exact .refl joins

theorem seen_eq_self_iff : seen joins = joins ↔ ∀ join ∈ joins.dropLast, join.isBare = false := by
  fun_induction seen joins with
  | case1 join next joins bare ih =>
    have short := (seen_sublist joins).length_le
    have differ : join :: seen joins ≠ join :: next :: joins := by
      intro same
      have lengths := congrArg List.length same
      simp only [List.length_cons] at lengths
      omega
    simp [differ, bare]
  | case2 join next joins full ih => simp [full, ih]
  | case3 joins last =>
    match joins with
    | [] | [_] => simp
    | join :: next :: joins => exact absurd rfl (last join next joins)

/-- The references that are found in a selection are its table and the joins that are seen. They
are all that are written exactly if every join but the last has an alias or a condition. -/
theorem tableReferences_selectText (first : Source) (joins : List Join)
    (writtenFirst : first.IsWritten) (written : ∀ join ∈ joins, join.IsWritten) :
    tableReferences (selectText first joins) =
        first.reference :: (seen joins).map (fun join => join.source.reference) ∧
      (tableReferences (selectText first joins) =
          first.reference :: joins.map (fun join => join.source.reference) ↔
        ∀ join ∈ joins.dropLast, join.isBare = false) := by
  have found : tableReferences (selectText first joins) =
      first.reference :: (seen joins).map (fun join => join.source.reference) := by
    rw [selectText, tableReferences_select writtenFirst (follows_joins joins),
      map_referencesAfter_joins joins written]
  refine ⟨found, ?_⟩
  rw [found, ← seen_eq_self_iff, List.cons.injEq, and_iff_right rfl]
  constructor
  · intro same
    have lengths := congrArg List.length same
    simp only [List.length_map] at lengths
    exact (seen_sublist joins).eq_of_length lengths
  · exact fun same => by rw [same]

theorem tableReferences_selectText_careers :
    tableReferences
        "select * from engineers as e join skills s join projects on projects.id = e.id" =
      [⟨"engineers", some "e"⟩, ⟨"skills", some "s"⟩, ⟨"projects", none⟩] := by
  have text : selectText ⟨"engineers", .marked "e"⟩
      [⟨⟨"skills", .plain "s"⟩, none⟩, ⟨⟨"projects", .bare⟩, some ("projects.id", "e.id")⟩] =
        "select * from engineers as e join skills s join projects on projects.id = e.id" := by
    decide +kernel
  have found := (tableReferences_selectText ⟨"engineers", .marked "e"⟩
    [⟨⟨"skills", .plain "s"⟩, none⟩, ⟨⟨"projects", .bare⟩, some ("projects.id", "e.id")⟩]
    (by decide +kernel) (by decide +kernel)).2.mpr (by decide)
  rwa [text] at found

/-- The table behind a bare join is not found. -/
theorem tableReferences_bare :
    selectText ⟨"a", .bare⟩ [⟨⟨"b", .bare⟩, none⟩, ⟨⟨"c", .bare⟩, none⟩] =
        "select * from a join b join c" ∧
      Source.IsWritten ⟨"a", .bare⟩ ∧ Join.IsWritten ⟨⟨"b", .bare⟩, none⟩ ∧
      Join.IsWritten ⟨⟨"c", .bare⟩, none⟩ ∧
      tableReferences "select * from a join b join c" = [⟨"a", none⟩, ⟨"b", none⟩] := by
  decide +kernel

end SqlConsole.Suggestion
