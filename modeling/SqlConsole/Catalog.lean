import SqlConsole.Dataset

/-!
# The catalog

The directory of databases and tables that statements are run against. It is read-only. The names of
the columns of a table are distinct, and each row has a cell for each column.
-/

namespace SqlConsole

structure Table where
  name : Text
  columns : List Text
  rows : List (List Value)
  columns_distinct : columns.Pairwise (· ≠ ·)
  rows_aligned : ∀ row ∈ rows, row.length = columns.length

/-- A database: its tables, in order. -/
structure Database where
  name : Text
  tables : List Table

structure Catalog where
  databases : List Database

namespace Table

def build (name : Text) (columns : List Text) (rows : List (List Value)) :
    Except DatasetError Table :=
  if distinct : columns.Pairwise (· ≠ ·) then
    if aligned : ∀ row ∈ rows, row.length = columns.length then
      .ok ⟨name, columns, rows, distinct, aligned⟩
    else .error (misalignment name columns.length rows)
  else .error (.duplicateColumn name)

def ofSheet (sheet : Sheet) : Except DatasetError Table :=
  match sheet.headings.mapM Value.text? with
  | some columns => build sheet.name columns sheet.rows
  | none => .error (.headingNotText sheet.name)

def columnIndex? (table : Table) (column : Text) : Option Nat := table.columns.idxOf? column

/-- The type of a column by its name; text if there is no such column. -/
def columnType (table : Table) (column : Text) : ColumnType :=
  match table.columnIndex? column with
  | some index => columnTypeAt table.rows index
  | none => .text

def columnTypes (table : Table) : List ColumnType := table.columns.map table.columnType

def sheet (table : Table) : Sheet := ⟨table.name, table.columns.map .text, table.rows⟩

def outline (table : Table) : Value := .mapping [("columns", .list (table.columns.map .text))]

end Table

namespace Database

def tableNames (database : Database) : List Text := database.tables.map (·.name)

def table? (database : Database) (name : Text) : Option Table :=
  database.tables.find? (·.name == name)

def outline (database : Database) : Value :=
  .mapping (database.tables.map fun table => (table.name, table.outline))

end Database

namespace Catalog

def ofDataset (dataset : Dataset) : Except DatasetError Catalog := do
  return ⟨← dataset.databases.mapM fun (name, sheets) => do
    return ⟨name, ← sheets.mapM Table.ofSheet⟩⟩

def ofValue (v : Value) : Except DatasetError Catalog := Dataset.ofValue v >>= ofDataset

def databaseNames (catalog : Catalog) : List Text := catalog.databases.map (·.name)

def database? (catalog : Catalog) (name : Text) : Option Database :=
  catalog.databases.find? (·.name == name)

def hasDatabase (catalog : Catalog) (name : Text) : Bool := (catalog.database? name).isSome

def tableNames (catalog : Catalog) (database : Text) : List Text :=
  ((catalog.database? database).map Database.tableNames).getD []

def table? (catalog : Catalog) (database table : Text) : Option Table :=
  (catalog.database? database).bind (·.table? table)

def dataset (catalog : Catalog) : Dataset :=
  ⟨catalog.databases.map fun database => (database.name, database.tables.map Table.sheet)⟩

end Catalog

end SqlConsole
