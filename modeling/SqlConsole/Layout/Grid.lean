import SqlConsole.Layout.Width
import SqlConsole.Value.Display

/-!
# Grids

Columns and rows laid out so that each column is as wide as its widest cell.
-/

namespace SqlConsole.Layout

def cellTexts (rows : List (List Value)) : List (List Text) := rows.map (·.map Value.display)

/-- The width of a column: that of its heading or its widest cell. Rows may lack the cell. -/
def columnWidth (heading : Text) (index : Nat) (rows : List (List Text)) : Nat :=
  rows.foldl (fun width row => max width ((row[index]?.map displayWidth).getD 0))
    (displayWidth heading)

def columnWidths (headings : List Text) (rows : List (List Text)) : List Nat :=
  headings.zipIdx.map fun (heading, index) => columnWidth heading index rows

def padCells (widths : List Nat) (cells : List Text) : List Text := List.zipWith padTo cells widths

def rowCount (n : Nat) : Text :=
  "(" ++ Text.decimal n ++ (if n = 1 then " row)" else " rows)")

def resultLines (headings : List Text) (rows : List (List Text)) : List Text :=
  let widths := columnWidths headings rows
  List.intercalate " | " (padCells widths headings) ::
    List.intercalate "-+-" (widths.map hyphens) ::
    rows.map (fun row => List.intercalate " | " (padCells widths row)) ++ [rowCount rows.length]

/-- A result: its headings, a rule, its rows and their number. -/
def result (headings : List Text) (rows : List (List Value)) : Text :=
  if rows.isEmpty then rowCount 0
  else List.intercalate "\n" (resultLines headings (cellTexts rows))

def boxLine (widths : List Nat) (cells : List Text) : Text :=
  "| " ++ List.intercalate " | " (padCells widths cells) ++ " |"

def boxLines (headings : List Text) (rows : List (List Text)) : List Text :=
  let widths := columnWidths headings rows
  let border := "+-" ++ List.intercalate "-+-" (widths.map hyphens) ++ "-+"
  border :: boxLine widths headings :: border :: rows.map (boxLine widths) ++ [border]

def box (headings : List Text) (rows : List (List Value)) : Text :=
  List.intercalate "\n" (boxLines headings (cellTexts rows)) ++ "\n"

end SqlConsole.Layout
