import SqlConsole.Catalog
import SqlConsole.Layout.Grid
import SqlConsole.Statement.Basic

/-!
# Listings

The answers to statements that are not queries, in the style of a dialect.
-/

namespace SqlConsole.Layout

def user : Text := "user"

def schema : Text := "public"

def unlines (lines : List Text) : Text := lines.flatMap (· ++ "\n")

def databaseLines (names : List Text) : Dialect → List Text
  | .postgres =>
    "                                  List of databases" ::
      "    Name    | Owner | Encoding |   Collate   |    Ctype    | Access privileges" ::
      "-----------+-------+----------+-------------+-------------+-------------------" ::
      names.map fun name =>
        " " ++ padRight name 10 ++ "| " ++ user ++ "  | UTF8     | en_US.UTF-8 | en_US.UTF-8 | "
  | .mysql =>
    let border : Text := "+-------------+"
    border :: "| Database    |" :: border ::
      names.map (fun name => "| " ++ padRight name 11 ++ " |") ++ [border]

def databaseList (names : List Text) (dialect : Dialect) : Text :=
  unlines (databaseLines names dialect)

def tableLines (names : List Text) (database : Text) : Dialect → List Text
  | .postgres =>
    "             List of relations" ::
      " Schema |     Name      | Type  | Owner" ::
      "--------+--------------+-------+-------" ::
      names.map fun name => " " ++ schema ++ " | " ++ padRight name 12 ++ " | table | " ++ user
  | .mysql =>
    let title := "Tables_in_" ++ database
    let width := (names.map List.length).foldl max title.length + 4
    let border := "+" ++ hyphens width ++ "+"
    border :: ("| " ++ padRight title (width - 2) ++ " |") :: border ::
      names.map (fun name => "| " ++ padRight name (width - 2) ++ " |") ++ [border]

def tableList (names : List Text) (database : Text) (dialect : Dialect) : Text :=
  unlines (tableLines names database dialect)

def descriptionHeadings : List Text := ["Column", "Type", "Collation", "Nullable", "Default"]

/-- The columns of a table with their types. Every column is reported as required and without a
default. -/
def description (table : Table) (database : Text) (dialect : Dialect) : Text :=
  let columns := table.columns.map fun column => (column, (table.columnType column).name)
  match dialect with
  | .postgres =>
    unlines (("                                Table \"" ++ database ++ "." ++ schema ++ "." ++
        table.name ++ "\"") ::
      " Column              | Type                        | Collation | Nullable | Default" ::
      "--------------------+----------------------------+-----------+----------+---------" ::
      columns.map fun (column, type) =>
        " " ++ padRight column 19 ++ "| " ++ padRight type 27 ++ "|           | not null | ")
  | .mysql =>
    box descriptionHeadings (columns.map fun (column, type) =>
      [.text column, .text type, .text "", .text "not null", .text ""])

def connection (database : Text) : Dialect → Text
  | .postgres =>
    "You are now connected to database \"" ++ database ++ "\" as user \"" ++ user ++ "\""
  | .mysql => "Database changed to " ++ database

def errorReport (message : Text) (line : Int) (token : Text) : Dialect → Text
  | .postgres => "ERROR:  " ++ message ++ "\n行 " ++ Text.integer line ++ ": " ++ token
  | .mysql => message

end SqlConsole.Layout
