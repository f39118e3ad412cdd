import SqlConsole.Proofs.Layout.Lines
import Mathlib.Algebra.BigOperators.Group.List.Basic
import Mathlib.Algebra.Ring.Nat
import Mathlib.Data.List.Forall2
import Mathlib.Order.Bounds.Basic

/-!
# Aligned grids

The lines of a result and of a box are all of one width, and each column starts at the same place in
all of them (`grids_align`). A column is as wide as its widest text.
-/

namespace SqlConsole.Layout

open Text (IsLine isLine_append isLine_intercalate)

/-! ### Pieces of a line -/

/-- Whether a piece of text stands in a line behind a number of terminal columns. -/
def StandsAt (line : Text) (place : Nat) (piece : Text) : Prop :=
  ∃ before after, line = before ++ piece ++ after ∧ displayWidth before = place

structure Frame where
  left : Text
  between : Text
  right : Text

namespace Frame

def line (frame : Frame) (cells : List Text) : Text :=
  frame.left ++ List.intercalate frame.between cells ++ frame.right

def HasGaps (frame : Frame) : Prop := displayWidth frame.between = 3

end Frame

/-- How far behind its first column a column of a grid starts: behind the columns before it, with a
gap of three after each. -/
def columnStart (widths : List Nat) (index : Nat) : Nat := (widths.take index).sum + 3 * index

/-- Whether a line has texts in columns of the given widths, each filled up with spaces, and a gap
between any two columns. -/
structure IsAligned (frame : Frame) (widths : List Nat) (texts : List Text) (line : Text) :
    Prop where
  width : displayWidth line = displayWidth frame.left +
    (widths.sum + 3 * (widths.length - 1)) + displayWidth frame.right
  cells : ∀ index text width, texts[index]? = some text → widths[index]? = some width →
    ∃ n, displayWidth text + n = width ∧
      StandsAt line (displayWidth frame.left + columnStart widths index) (text ++ spaces n)
  gaps : ∀ index width, widths[index]? = some width → index + 1 < widths.length →
    StandsAt line (displayWidth frame.left + columnStart widths index + width) frame.between
  opens : StandsAt line 0 frame.left
  closes : StandsAt line (displayWidth frame.left + (widths.sum + 3 * (widths.length - 1)))
    frame.right

/-! ### Cells with gaps between them -/

variable {gap : Text} {cells : List Text} {index : Nat}

theorem displayWidth_intercalate (gap : Text) (cells : List Text) :
    displayWidth (List.intercalate gap cells) =
      (cells.map displayWidth).sum + displayWidth gap * (cells.length - 1) := by
  induction cells with
  | nil => rfl
  | cons cell cells ih =>
    cases cells with
    | nil => simp
    | cons next cells =>
      rw [List.intercalate_cons_cons, displayWidth_append, displayWidth_append, ih]
      simp only [List.map_cons, List.sum_cons, List.length_cons, Nat.add_sub_cancel, Nat.mul_succ]
      omega

theorem exists_front (gap : Text) (inside : index < cells.length) :
    ∃ front, List.intercalate gap cells = front ++ List.intercalate gap (cells.drop index) ∧
      displayWidth front =
        ((cells.take index).map displayWidth).sum + displayWidth gap * index := by
  induction index with
  | zero => exact ⟨[], rfl, rfl⟩
  | succ index ih =>
    obtain ⟨front, same, width⟩ := ih (by omega)
    have here : index < cells.length := by omega
    refine ⟨front ++ cells[index] ++ gap, ?_, ?_⟩
    · rw [same, List.drop_eq_getElem_cons here, List.drop_eq_getElem_cons inside,
        List.intercalate_cons_cons]
      simp only [List.append_assoc]
    · rw [List.take_add_one, List.getElem?_eq_getElem here, displayWidth_append,
        displayWidth_append, width]
      simp only [Option.toList_some, List.map_append, List.map_cons, List.map_nil,
        List.sum_append, List.sum_cons, List.sum_nil, Nat.mul_succ]
      omega

theorem exists_intercalate_cons (gap cell : Text) (cells : List Text) :
    ∃ after, List.intercalate gap (cell :: cells) = cell ++ after := by
  cases cells with
  | nil => exact ⟨[], by simp⟩
  | cons next cells =>
    exact ⟨_, by rw [List.intercalate_cons_cons, List.append_assoc]⟩

/-! ### Cells that are filled up -/

variable {frame : Frame} {widths : List Nat} {texts : List Text}

theorem map_displayWidth_padCells (length : texts.length = widths.length)
    (fits : ∀ (index : Nat) text width, texts[index]? = some text → widths[index]? = some width →
      displayWidth text ≤ width) : (padCells widths texts).map displayWidth = widths := by
  refine List.ext_getElem (by simp [padCells, length]) fun index inside within => ?_
  have there : index < texts.length := length ▸ within
  have fit := fits index _ _ (List.getElem?_eq_getElem there) (List.getElem?_eq_getElem within)
  simp only [padCells, List.getElem_map, List.getElem_zipWith, displayWidth_padTo fit]

theorem isLine_padCells (each : ∀ text ∈ texts, IsLine text) (widths : List Nat) :
    ∀ cell ∈ padCells widths texts, IsLine cell := by
  intro cell member
  obtain ⟨index, inside, rfl⟩ := List.getElem_of_mem member
  simp only [padCells, List.getElem_zipWith]
  exact isLine_append.mpr ⟨each _ (List.getElem_mem _), isLine_spaces _⟩

theorem exists_before (gaps : frame.HasGaps) (fill : cells.map displayWidth = widths)
    (inside : index < cells.length) :
    ∃ before, frame.line cells =
        before ++ List.intercalate frame.between (cells.drop index) ++ frame.right ∧
      displayWidth before = displayWidth frame.left + columnStart widths index := by
  obtain ⟨front, same, width⟩ := exists_front frame.between inside
  refine ⟨frame.left ++ front, ?_, ?_⟩
  · simp only [Frame.line, same, List.append_assoc]
  · rw [displayWidth_append, width, ← fill, columnStart, List.map_take, show _ = 3 from gaps]

theorem isAligned_line (gaps : frame.HasGaps) (length : texts.length = widths.length)
    (fits : ∀ (index : Nat) text width, texts[index]? = some text → widths[index]? = some width →
      displayWidth text ≤ width) :
    IsAligned frame widths texts (frame.line (padCells widths texts)) := by
  have fill := map_displayWidth_padCells length fits
  have count : (padCells widths texts).length = widths.length := by
    rw [← List.length_map displayWidth, fill]
  have whole : displayWidth (List.intercalate frame.between (padCells widths texts)) =
      widths.sum + 3 * (widths.length - 1) := by
    rw [displayWidth_intercalate, fill, count, show displayWidth frame.between = 3 from gaps]
  refine ⟨?_, fun index text width there wide => ?_, fun index width wide next => ?_, ?_, ?_⟩
  · rw [Frame.line, displayWidth_append, displayWidth_append, whole]
  · obtain ⟨inside, rfl⟩ := List.getElem?_eq_some_iff.mp wide
    obtain ⟨within, rfl⟩ := List.getElem?_eq_some_iff.mp there
    obtain ⟨before, same, place⟩ := exists_before gaps fill (count ▸ inside)
    obtain ⟨after, rest⟩ := exists_intercalate_cons frame.between (padCells widths texts)[index]
      ((padCells widths texts).drop (index + 1))
    have fit := fits index _ _ there wide
    refine ⟨widths[index] - displayWidth texts[index], by omega, before, after ++ frame.right, ?_,
      place⟩
    rw [same, List.drop_eq_getElem_cons (count ▸ inside), rest]
    simp only [padCells, List.getElem_zipWith, padTo, List.append_assoc]
  · obtain ⟨inside, rfl⟩ := List.getElem?_eq_some_iff.mp wide
    obtain ⟨before, same, place⟩ := exists_before gaps fill (count ▸ inside)
    have filled : displayWidth (padCells widths texts)[index] = widths[index] :=
      (List.getElem_map _).symm.trans (List.getElem_of_eq fill (by rwa [List.length_map, count]))
    refine ⟨before ++ (padCells widths texts)[index],
      List.intercalate frame.between ((padCells widths texts).drop (index + 1)) ++ frame.right,
      ?_, ?_⟩
    · rw [same, List.drop_eq_getElem_cons (count ▸ inside),
        List.drop_eq_getElem_cons (count ▸ next), List.intercalate_cons_cons]
      simp only [List.append_assoc]
    · rw [displayWidth_append, place, filled]
  · exact ⟨[], _, by rw [Frame.line, List.nil_append, List.append_assoc], rfl⟩
  · exact ⟨_, [], (List.append_nil _).symm, by rw [displayWidth_append, whole]⟩

/-! ### Widths of columns -/

variable {headings : List Text} {rows : List (List Value)}

/-- The widths of the texts in a column: its heading and its cells as they are shown. -/
def textWidths (headings : List Text) (rows : List (List Value)) (index : Nat) : Set Nat :=
  {n | ∃ text, (headings[index]? = some text ∨
    ∃ row ∈ rows, row[index]?.map Value.display = some text) ∧ displayWidth text = n}

theorem isGreatest_foldl_max (n : Nat) (ns : List Nat) :
    IsGreatest {m | m ∈ n :: ns} (ns.foldl max n) :=
  List.max?_eq_some_iff.mp List.max?_cons'

theorem columnWidth_isGreatest {heading : Text} (there : headings[index]? = some heading)
    (whole : ∀ row ∈ rows, row.length = headings.length) :
    IsGreatest (textWidths headings rows index)
      (columnWidth heading index (cellTexts rows)) := by
  have inside := (List.getElem?_eq_some_iff.mp there).1
  have same : textWidths headings rows index = {n | n ∈ displayWidth heading ::
      (cellTexts rows).map fun row => (row[index]?.map displayWidth).getD 0} := by
    ext n
    rw [Set.mem_ofPred_eq, List.mem_cons, cellTexts, List.map_map, List.mem_map]
    constructor
    · rintro ⟨text, heads | ⟨row, member, shown⟩, rfl⟩
      · obtain rfl := Option.some.inj (there.symm.trans heads)
        exact .inl rfl
      · refine .inr ⟨row, member, ?_⟩
        simp only [Function.comp_apply, List.getElem?_map, shown, Option.map_some, Option.getD_some]
    · rintro (rfl | ⟨row, member, rfl⟩)
      · exact ⟨heading, .inl there, rfl⟩
      · have within : index < row.length := whole row member ▸ inside
        refine ⟨row[index].display, .inr ⟨row, member, ?_⟩, ?_⟩
        · rw [List.getElem?_eq_getElem within, Option.map_some]
        · simp only [Function.comp_apply, List.getElem?_map, List.getElem?_eq_getElem within,
            Option.map_some, Option.getD_some]
  have folded : columnWidth heading index (cellTexts rows) =
      ((cellTexts rows).map fun row => (row[index]?.map displayWidth).getD 0).foldl max
        (displayWidth heading) := List.foldl_map.symm
  rw [same, folded]
  exact isGreatest_foldl_max _ _

theorem length_columnWidths (headings : List Text) (rows : List (List Text)) :
    (columnWidths headings rows).length = headings.length := by
  rw [columnWidths, List.length_map, List.length_zipIdx]

theorem columnWidths_isGreatest {width : Nat} (whole : ∀ row ∈ rows, row.length = headings.length)
    (found : (columnWidths headings (cellTexts rows))[index]? = some width) :
    IsGreatest (textWidths headings rows index) width := by
  simp only [columnWidths, List.getElem?_map, List.getElem?_zipIdx, Option.map_eq_some_iff,
    Option.map_map] at found
  obtain ⟨heading, there, rfl⟩ := found
  simpa using columnWidth_isGreatest there whole

theorem padCells_hyphens (widths : List Nat) :
    padCells widths (widths.map hyphens) = widths.map hyphens := by
  induction widths with
  | nil => rfl
  | cons width widths ih =>
    have full : padTo (hyphens width) width = hyphens width := by
      rw [padTo, displayWidth_hyphens, Nat.sub_self]
      exact List.append_nil _
    rw [List.map_cons, padCells, List.zipWith_cons_cons, full, ← padCells, ih]

theorem isAligned_hyphens (gaps : frame.HasGaps) (widths : List Nat) :
    IsAligned frame widths (widths.map hyphens) (frame.line (widths.map hyphens)) := by
  have count : (widths.map hyphens).length = widths.length := List.length_map hyphens
  have aligned := isAligned_line gaps count fun index text width there wide => by
    rw [List.getElem?_map, wide] at there
    cases there
    rw [displayWidth_hyphens]
  rwa [padCells_hyphens] at aligned

/-! ### Grids in frames -/

/-- Whether lines are the headings, the rule and the rows of a grid, aligned in columns of the given
widths, and all of one width, that of the columns, the gaps and the margins together. -/
structure IsGrid (rowFrame ruleFrame : Frame) (margins : Nat) (widths : List Nat)
    (headings : List Text) (rows : List (List Value)) (header rule : Text) (body : List Text) :
    Prop where
  alignedHeader : IsAligned rowFrame widths headings header
  alignedRule : IsAligned ruleFrame widths (widths.map hyphens) rule
  alignedBody :
    List.Forall₂ (fun row => IsAligned rowFrame widths (row.map Value.display)) rows body
  width : ∀ line ∈ header :: rule :: body,
    displayWidth line = widths.sum + 3 * (widths.length - 1) + margins

structure Frame.IsRegular (frame : Frame) (margins : Nat) : Prop where
  gaps : frame.HasGaps
  margins : displayWidth frame.left + displayWidth frame.right = margins
  isLine : IsLine frame.left ∧ IsLine frame.between ∧ IsLine frame.right

theorem IsAligned.width_eq {line : Text} {margins : Nat}
    (aligned : IsAligned frame widths texts line) (regular : frame.IsRegular margins) :
    displayWidth line = widths.sum + 3 * (widths.length - 1) + margins := by
  have width := aligned.width
  have sides := regular.margins
  omega

theorem Frame.IsRegular.isLine_line {margins : Nat} (regular : frame.IsRegular margins)
    (each : ∀ cell ∈ cells, IsLine cell) : IsLine (frame.line cells) := by
  obtain ⟨left, between, right⟩ := regular.isLine
  exact isLine_append.mpr ⟨isLine_append.mpr ⟨left, isLine_intercalate between each⟩, right⟩

theorem isGrid_lines {rowFrame ruleFrame : Frame} {margins : Nat}
    (rowRegular : rowFrame.IsRegular margins) (ruleRegular : ruleFrame.IsRegular margins)
    (whole : ∀ row ∈ rows, row.length = headings.length) (length : widths.length = headings.length)
    (bounds : ∀ (index : Nat) width, widths[index]? = some width →
      ∀ n ∈ textWidths headings rows index, n ≤ width) :
    IsGrid rowFrame ruleFrame margins widths headings rows
      (rowFrame.line (padCells widths headings)) (ruleFrame.line (widths.map hyphens))
      ((cellTexts rows).map fun texts => rowFrame.line (padCells widths texts)) := by
  have header : IsAligned rowFrame widths headings (rowFrame.line (padCells widths headings)) :=
    isAligned_line rowRegular.gaps length.symm fun index text width there wide =>
      bounds index width wide _ ⟨text, .inl there, rfl⟩
  have rule := isAligned_hyphens ruleRegular.gaps widths
  have body : ∀ row ∈ rows, IsAligned rowFrame widths (row.map Value.display)
      (rowFrame.line (padCells widths (row.map Value.display))) := by
    intro row member
    refine isAligned_line rowRegular.gaps ?_ fun index text width there wide => ?_
    · rw [List.length_map, whole row member, length]
    · rw [List.getElem?_map] at there
      exact bounds index width wide _ ⟨text, .inr ⟨row, member, there⟩, rfl⟩
  refine ⟨header, rule, ?_, ?_⟩
  · rw [cellTexts, List.map_map, List.forall₂_map_right_iff, List.forall₂_same]
    exact body
  · rw [cellTexts, List.map_map, List.forall_mem_cons, List.forall_mem_cons, List.forall_mem_map]
    exact ⟨header.width_eq rowRegular, rule.width_eq ruleRegular,
      fun row member => (body row member).width_eq rowRegular⟩

theorem isLine_gridLines {rowFrame ruleFrame : Frame} {margins : Nat}
    (rowRegular : rowFrame.IsRegular margins) (ruleRegular : ruleFrame.IsRegular margins)
    (headingLines : ∀ heading ∈ headings, IsLine heading)
    (cellLines : ∀ row ∈ rows, ∀ cell ∈ row, IsLine cell.display) (widths : List Nat) :
    ∀ line ∈ rowFrame.line (padCells widths headings) :: ruleFrame.line (widths.map hyphens) ::
      (cellTexts rows).map fun texts => rowFrame.line (padCells widths texts), IsLine line := by
  rw [List.forall_mem_cons, List.forall_mem_cons, cellTexts, List.map_map, List.forall_mem_map]
  refine ⟨rowRegular.isLine_line (isLine_padCells headingLines widths),
    ruleRegular.isLine_line (List.forall_mem_map.mpr fun width _ => isLine_hyphens width),
    fun row member => rowRegular.isLine_line (isLine_padCells ?_ widths)⟩
  exact List.forall_mem_map.mpr (cellLines row member)

/-! ### Results and boxes -/

namespace Frame

def row : Frame := ⟨[], " | ", []⟩

def rule : Frame := ⟨[], "-+-", []⟩

def boxRow : Frame := ⟨"| ", " | ", " |"⟩

def border : Frame := ⟨"+-", "-+-", "-+"⟩

theorem row_isRegular : row.IsRegular 0 := ⟨rfl, rfl, by decide⟩

theorem rule_isRegular : rule.IsRegular 0 := ⟨rfl, rfl, by decide⟩

theorem boxRow_isRegular : boxRow.IsRegular 4 := ⟨rfl, rfl, by decide⟩

theorem border_isRegular : border.IsRegular 4 := ⟨rfl, rfl, by decide⟩

end Frame

theorem isLine_rowCount (n : Nat) : IsLine (rowCount n) := by
  have digits : IsLine (Text.decimal n) := by
    intro member
    obtain ⟨c, inside, same⟩ := List.mem_map.mp member
    cases same
    exact absurd (Nat.isDigit_of_mem_toDigits (by decide) (by decide) inside) (by decide)
  refine isLine_append.mpr ⟨isLine_append.mpr ⟨by decide, digits⟩, ?_⟩
  split <;> decide

theorem lines_result (present : rows ≠ [])
    (headingLines : ∀ heading ∈ headings, IsLine heading)
    (cellLines : ∀ row ∈ rows, ∀ cell ∈ row, IsLine cell.display)
    (same : columnWidths headings (cellTexts rows) = widths) :
    (result headings rows).lines =
      Frame.row.line (padCells widths headings) :: Frame.rule.line (widths.map hyphens) ::
        (cellTexts rows).map (fun texts => Frame.row.line (padCells widths texts)) ++
        [rowCount rows.length] := by
  have shown : rowCount rows.length ≠ [] := List.cons_ne_nil _ _
  have framed : resultLines headings (cellTexts rows) =
      Frame.row.line (padCells widths headings) :: Frame.rule.line (widths.map hyphens) ::
        (cellTexts rows).map (fun texts => Frame.row.line (padCells widths texts)) ++
        [rowCount rows.length] := by
    simp only [resultLines, same]
    simp [Frame.line, Frame.row, Frame.rule, cellTexts]
  rw [result, if_neg (by simpa using present), framed]
  refine Text.lines_intercalate shown (List.forall_mem_append.mpr ⟨?_, ?_⟩)
  · exact isLine_gridLines Frame.row_isRegular Frame.rule_isRegular headingLines cellLines widths
  · exact List.forall_mem_singleton.mpr (isLine_rowCount _)

theorem lines_box (headingLines : ∀ heading ∈ headings, IsLine heading)
    (cellLines : ∀ row ∈ rows, ∀ cell ∈ row, IsLine cell.display)
    (same : columnWidths headings (cellTexts rows) = widths) :
    (box headings rows).lines =
      Frame.border.line (widths.map hyphens) :: Frame.boxRow.line (padCells widths headings) ::
        Frame.border.line (widths.map hyphens) ::
        (cellTexts rows).map (fun texts => Frame.boxRow.line (padCells widths texts)) ++
        [Frame.border.line (widths.map hyphens)] := by
  have framed : box headings rows = unlines
      (Frame.border.line (widths.map hyphens) :: Frame.boxRow.line (padCells widths headings) ::
        Frame.border.line (widths.map hyphens) ::
        (cellTexts rows).map (fun texts => Frame.boxRow.line (padCells widths texts)) ++
        [Frame.border.line (widths.map hyphens)]) := by
    rw [box, intercalate_append_newline (by simp [boxLines]), boxLines, same]
    rfl
  have each := isLine_gridLines Frame.boxRow_isRegular Frame.border_isRegular headingLines
    cellLines widths
  simp only [List.forall_mem_cons] at each
  obtain ⟨header, border, body⟩ := each
  rw [framed, lines_unlines]
  simp only [List.cons_append, List.forall_mem_cons, List.forall_mem_append]
  exact ⟨border, header, border, body, border, List.forall_mem_nil _⟩

/-- The lines of a result and of a box are aligned in the same columns, each as wide as its widest
text. So all of them but the last one of a result are of one width. -/
theorem grids_align (headings : List Text) (rows : List (List Value))
    (whole : ∀ row ∈ rows, row.length = headings.length)
    (headingLines : ∀ heading ∈ headings, IsLine heading)
    (cellLines : ∀ row ∈ rows, ∀ cell ∈ row, IsLine cell.display) :
    ∃ widths : List Nat, widths.length = headings.length ∧
      (∀ (index : Nat) width, widths[index]? = some width →
        IsGreatest (textWidths headings rows index) width) ∧
      (rows ≠ [] → ∃ header rule body,
        (result headings rows).lines = header :: rule :: body ++ [rowCount rows.length] ∧
        (result headings rows).lines.length = rows.length + 3 ∧
        IsGrid .row .rule 0 widths headings rows header rule body) ∧
      ∃ header border body,
        (box headings rows).lines = border :: header :: border :: body ++ [border] ∧
        (box headings rows).lines.length = rows.length + 4 ∧
        IsGrid .boxRow .border 4 widths headings rows header border body := by
  have length := length_columnWidths headings (cellTexts rows)
  have greatest : ∀ (index : Nat) width,
      (columnWidths headings (cellTexts rows))[index]? = some width →
        IsGreatest (textWidths headings rows index) width :=
    fun _ _ => columnWidths_isGreatest whole
  generalize same : columnWidths headings (cellTexts rows) = widths at length greatest
  have bounds := fun index width wide => (greatest index width wide).2
  refine ⟨widths, length, greatest, fun present => ?_, ?_⟩
  · have shown := lines_result present headingLines cellLines same
    exact ⟨_, _, _, shown, by simp [shown, cellTexts],
      isGrid_lines Frame.row_isRegular Frame.rule_isRegular whole length bounds⟩
  · have shown := lines_box headingLines cellLines same
    exact ⟨_, _, _, shown, by simp [shown, cellTexts],
      isGrid_lines Frame.boxRow_isRegular Frame.border_isRegular whole length bounds⟩

/-- A name of four wide characters takes up eight columns, to which its heading is filled up. -/
theorem grids_align_wideName :
    ∃ header rule body,
      (result ["id", "name"] [[.integer 1, .text "山田太郎"]]).lines =
        header :: rule :: body ++ [rowCount 1] ∧
      IsGrid .row .rule 0 [2, 8] ["id", "name"] [[.integer 1, .text "山田太郎"]] header rule
        body := by
  obtain ⟨widths, length, greatest, listed, -⟩ :=
    grids_align ["id", "name"] [[.integer 1, .text "山田太郎"]] (by decide) (by decide) (by decide)
  obtain ⟨header, rule, body, shown, -, grid⟩ := listed (List.cons_ne_nil _ _)
  obtain ⟨first, second, rfl⟩ := List.length_eq_two.mp length
  obtain rfl : first = 2 := (greatest 0 first rfl).unique
    (columnWidths_isGreatest (by decide) (by decide +kernel))
  obtain rfl : second = 8 := (greatest 1 second rfl).unique
    (columnWidths_isGreatest (by decide) (by decide +kernel))
  exact ⟨header, rule, body, shown, grid⟩

end SqlConsole.Layout
