import SqlConsole.Proofs.Layout.Grid

/-!
# Listings in boxes

The lines of the list of tables have one number of characters, and those of the list of databases
too, as long as the names fit into it. They take up one number of columns where no character takes
up two (`listings_close`).
-/

namespace SqlConsole.Layout

open Text (IsLine isLine_append)

/-! ### Lines of a box with one column -/

def edge (width : Nat) : Text := "+" ++ hyphens (width + 2) ++ "+"

def entry (width : Nat) (text : Text) : Text := "| " ++ padRight text width ++ " |"

def column (width : Nat) (title : Text) (names : List Text) : List Text :=
  edge width :: entry width title :: edge width :: names.map (entry width) ++ [edge width]

def IsClosed (line : Text) : Prop :=
  ∃ side inner, side ∈ ([.char '+', .char '|'] : Text) ∧ line = side :: inner ++ [side]

variable {width : Nat} {text title database : Text} {names : List Text}

theorem isClosed_edge (width : Nat) : IsClosed (edge width) :=
  ⟨.char '+', hyphens (width + 2), by decide, rfl⟩

theorem isClosed_entry (width : Nat) (text : Text) : IsClosed (entry width text) :=
  ⟨.char '|', " " ++ padRight text width ++ " ", by decide,
    congrArg ((Text.ofString "| ") ++ ·) (List.append_assoc (padRight text width) " " "|").symm⟩

theorem length_edge (width : Nat) : (edge width).length = width + 4 := by
  have ends : ("+" : Text).length = 1 := rfl
  simp only [edge, hyphens, List.length_append, List.length_replicate, ends]
  omega

theorem length_entry (fits : text.length ≤ width) : (entry width text).length = width + 4 := by
  have left : ("| " : Text).length = 2 := rfl
  have right : (" |" : Text).length = 2 := rfl
  simp only [entry, padRight, spaces, List.length_append, List.length_replicate, left, right]
  omega

theorem isNarrow_append {s t : Text} : IsNarrow (s ++ t) ↔ IsNarrow s ∧ IsNarrow t :=
  List.forall_mem_append

theorem isNarrow_edge (width : Nat) : IsNarrow (edge width) :=
  isNarrow_append.mpr ⟨isNarrow_append.mpr ⟨by decide, isNarrow_hyphens _⟩, by decide⟩

theorem isNarrow_entry (narrow : IsNarrow text) (width : Nat) : IsNarrow (entry width text) := by
  refine isNarrow_append.mpr ⟨isNarrow_append.mpr ⟨by decide, ?_⟩, by decide⟩
  exact isNarrow_append.mpr ⟨narrow, isNarrow_spaces _⟩

theorem isLine_edge (width : Nat) : IsLine (edge width) :=
  isLine_append.mpr ⟨isLine_append.mpr ⟨by decide, isLine_hyphens _⟩, by decide⟩

theorem isLine_entry (line : IsLine text) (width : Nat) : IsLine (entry width text) := by
  refine isLine_append.mpr ⟨isLine_append.mpr ⟨by decide, ?_⟩, by decide⟩
  exact isLine_append.mpr ⟨line, isLine_spaces _⟩

theorem forall_mem_column {P : Text → Prop} (edges : P (edge width)) (first : P (entry width title))
    (others : ∀ name ∈ names, P (entry width name)) :
    ∀ line ∈ column width title names, P line := by
  simp only [column, List.cons_append, List.forall_mem_cons, List.forall_mem_append,
    List.forall_mem_map]
  exact ⟨edges, first, edges, others, edges, List.forall_mem_nil _⟩

theorem length_column (width : Nat) (title : Text) (names : List Text) :
    (column width title names).length = names.length + 4 := by
  simp [column]

theorem lines_column (titleLine : IsLine title) (nameLines : ∀ name ∈ names, IsLine name) :
    (unlines (column width title names)).lines = column width title names :=
  lines_unlines (forall_mem_column (isLine_edge _) (isLine_entry titleLine _)
    fun name member => isLine_entry (nameLines name member) _)

theorem column_isClosed (width : Nat) (title : Text) (names : List Text) :
    ∀ line ∈ column width title names, IsClosed line :=
  forall_mem_column (isClosed_edge _) (isClosed_entry _ _) fun _ _ => isClosed_entry _ _

theorem column_straight (titleFits : title.length ≤ width)
    (namesFit : ∀ name ∈ names, name.length ≤ width) :
    ∀ line ∈ column width title names, line.length = width + 4 :=
  forall_mem_column (length_edge _) (length_entry titleFits)
    fun name member => length_entry (namesFit name member)

theorem column_isNarrow (titleNarrow : IsNarrow title)
    (namesNarrow : ∀ name ∈ names, IsNarrow name) :
    ∀ line ∈ column width title names, IsNarrow line :=
  forall_mem_column (isNarrow_edge _) (isNarrow_entry titleNarrow _)
    fun name member => isNarrow_entry (namesNarrow name member) _

/-! ### The lists -/

theorem databaseLines_mysql (names : List Text) :
    databaseLines names .mysql = column 11 "Database" names := rfl

theorem exists_tableLines_mysql (names : List Text) (database : Text) :
    ∃ width, tableLines names database .mysql = column width ("Tables_in_" ++ database) names ∧
      ("Tables_in_" ++ database : Text).length ≤ width ∧ ∀ name ∈ names, name.length ≤ width := by
  obtain ⟨-, bound⟩ := isGreatest_foldl_max ("Tables_in_" ++ database : Text).length
    (names.map List.length)
  refine ⟨(names.map List.length).foldl max ("Tables_in_" ++ database : Text).length + 2, rfl,
    ?_, fun name member => ?_⟩
  · exact Nat.le_add_right_of_le (bound (List.mem_cons_self))
  · exact Nat.le_add_right_of_le (bound (List.mem_cons_of_mem _ (List.mem_map_of_mem member)))

/-- The boxes of the lists of tables and of databases close. Names are filled up by their number of
characters, and the list of databases has room for eleven. -/
theorem listings_close (names : List Text) (database : Text)
    (nameLines : ∀ name ∈ names, IsLine name) (databaseLine : IsLine database) :
    ((tableList names database .mysql).lines.length = names.length + 4 ∧
      (∀ line ∈ (tableList names database .mysql).lines, IsClosed line) ∧
      ∃ n, ∀ line ∈ (tableList names database .mysql).lines, line.length = n ∧
        (IsNarrow database → (∀ name ∈ names, IsNarrow name) → displayWidth line = n)) ∧
    (databaseList names .mysql).lines.length = names.length + 4 ∧
      (∀ line ∈ (databaseList names .mysql).lines, IsClosed line) ∧
      ((∀ name ∈ names, name.length ≤ 11) →
        ∀ line ∈ (databaseList names .mysql).lines, line.length = 15 ∧
          ((∀ name ∈ names, IsNarrow name) → displayWidth line = 15)) := by
  constructor
  · obtain ⟨width, tables, titleFits, namesFit⟩ := exists_tableLines_mysql names database
    rw [tableList, tables, lines_column (isLine_append.mpr ⟨by decide, databaseLine⟩) nameLines]
    refine ⟨length_column _ _ _, column_isClosed _ _ _, width + 4, fun line member => ?_⟩
    have straight := column_straight titleFits namesFit line member
    refine ⟨straight, fun databaseNarrow namesNarrow => ?_⟩
    have titleNarrow := isNarrow_append.mpr ⟨(by decide : IsNarrow "Tables_in_"), databaseNarrow⟩
    rw [(column_isNarrow titleNarrow namesNarrow line member).displayWidth_eq, straight]
  · rw [databaseList, databaseLines_mysql, lines_column (by decide) nameLines]
    refine ⟨length_column _ _ _, column_isClosed _ _ _, fun namesFit line member => ?_⟩
    have straight := column_straight (by decide) namesFit line member
    refine ⟨straight, fun namesNarrow => ?_⟩
    rw [(column_isNarrow (by decide) namesNarrow line member).displayWidth_eq, straight]

theorem listings_close_careers :
    (∀ line ∈ (tableList ["engineers", "skills"] "career_db" .mysql).lines,
      displayWidth line = 25) ∧
    ∀ line ∈ (databaseList ["engineers", "skills"] .mysql).lines, displayWidth line = 15 := by
  obtain ⟨⟨-, -, n, tables⟩, -, -, databases⟩ :=
    listings_close ["engineers", "skills"] "career_db" (by decide) (by decide)
  have border : n = 25 :=
    (tables (edge 21) (by decide +kernel)).1.symm
  exact ⟨fun line member => border ▸ (tables line member).2 (by decide) (by decide),
    fun line member => (databases (by decide) line member).2 (by decide)⟩

/-- A name of wide characters sticks out of the list of tables, and a long one out of that of
databases. -/
theorem listings_stick_out :
    (¬ ∃ n, ∀ line ∈ (tableList ["技能"] "career_db" .mysql).lines, displayWidth line = n) ∧
    ¬ ∃ n, ∀ line ∈ (databaseList ["engineers_archive"] .mysql).lines, displayWidth line = n := by
  constructor
  · rintro ⟨n, straight⟩
    have border := straight (edge 21) (by decide +kernel)
    have name := straight (entry 21 "技能") (by decide +kernel)
    exact absurd (border.trans name.symm) (by decide +kernel)
  · rintro ⟨n, straight⟩
    have border := straight (edge 11) (by decide +kernel)
    have name := straight (entry 11 "engineers_archive") (by decide +kernel)
    exact absurd (border.trans name.symm) (by decide +kernel)

end SqlConsole.Layout
