import SqlConsole.Json

/-!
# Datasets

A dataset is the content of a dataset file: databases of sheets, each with its headings and its
rows. `ofValue` checks a document and `toValue` writes one.
-/

namespace SqlConsole

inductive DatasetError where
  | unreadable
  | noDatabases
  | databaseNotMapping (database : Text)
  | noTables (database : Text)
  | tableNotMapping (table : Text)
  | noColumns (table : Text)
  | duplicateColumn (table : Text)
  | rowLength (index : Nat) (table : Text) (found expected : Nat)
  /-- The headings cannot be told apart, or the rows cannot be taken apart. -/
  | malformed (table : Text)
  | headingNotText (table : Text)
  deriving DecidableEq

def DatasetError.message : DatasetError → Text
  | unreadable => "Cannot load dataset"
  | noDatabases => "Dataset must contain a 'databases' mapping"
  | databaseNotMapping database => "Database '" ++ database ++ "' must be a mapping"
  | noTables database => "Database '" ++ database ++ "' must contain a 'tables' mapping"
  | tableNotMapping table => "Table '" ++ table ++ "' must be a mapping"
  | noColumns table => "Table '" ++ table ++ "' must list its columns"
  | duplicateColumn table => "Duplicate column name in table '" ++ table ++ "'"
  | rowLength index table found expected =>
    "Row " ++ Text.decimal index ++ " of table '" ++ table ++ "' has " ++ Text.decimal found ++
      " values, expected " ++ Text.decimal expected
  | malformed table => "Table '" ++ table ++ "' is malformed"
  | headingNotText table => "Table '" ++ table ++ "' has a column without a name"

inductive LoadError where
  | dataset (error : DatasetError)
  /-- The document of a file is refused in a way that nothing catches. -/
  | document (refusal : Json.Refusal)
  deriving DecidableEq

structure Sheet where
  name : Text
  headings : List Value
  rows : List (List Value)
  deriving DecidableEq

structure Dataset where
  databases : List (Text × List Sheet)
  deriving DecidableEq

/-- The error of the first row whose length is not the expected one. -/
def misalignment (table : Text) (expected : Nat) (rows : List (List Value)) : DatasetError :=
  match rows.zipIdx.find? fun (row, _) => row.length != expected with
  | some (row, index) => .rowLength index table row.length expected
  | none => .malformed table

/-- The type of a column by its place, taken from the first row; text if that does not tell. -/
def columnTypeAt (rows : List (List Value)) (index : Nat) : ColumnType :=
  match rows with
  | [] => .text
  | row :: _ =>
    match (row[index]?.map Value.type).getD .text with
    | .null => .text
    | t => t

namespace Sheet

/-- Whether no heading is taken for a later one. -/
def distinctHeadings : List Value → Bool
  | [] => true
  | v :: vs => vs.all (fun w => !v.alike w) && distinctHeadings vs

/-- The parts of a value that can be taken apart: the items of a list, the code points of a text
and the keys of a mapping. -/
def parts? : Value → Option (List Value)
  | .list items => some items
  | .text t => some (t.map fun c => .text [c])
  | .mapping entries => some (entries.map fun (key, _) => .text key)
  | _ => none

/-- Checks that the headings are distinct and that each row has a cell for each of them. -/
def check (sheet : Sheet) : Except DatasetError Sheet :=
  if !sheet.headings.all Value.isScalar then .error (.malformed sheet.name)
  else if !distinctHeadings sheet.headings then .error (.duplicateColumn sheet.name)
  else if !sheet.rows.all (fun row => row.length == sheet.headings.length) then
    .error (misalignment sheet.name sheet.headings.length sheet.rows)
  else .ok sheet

def rowsOf? (entries : List (Text × Value)) : Option (List (List Value)) :=
  match Keyed.get? entries "data" with
  | none => some []
  | some data => if data.isGiven then (parts? data).bind fun rows => rows.mapM parts? else some []

def ofValue (name : Text) (v : Value) : Except DatasetError Sheet :=
  match v with
  | .mapping entries =>
    match Keyed.get? entries "columns" with
    | some (.list headings) =>
      match rowsOf? entries with
      | some rows => check ⟨name, headings, rows⟩
      | none => .error (.malformed name)
    | _ => .error (.noColumns name)
  | _ => .error (.tableNotMapping name)

def columnTypes (sheet : Sheet) : List ColumnType :=
  (List.range sheet.headings.length).map (columnTypeAt sheet.rows)

def toValue (sheet : Sheet) : Value :=
  .mapping [("columns", .list sheet.headings), ("data", .list (sheet.rows.map .list))]

end Sheet

namespace Dataset

def sheetsOf (database : Text) (v : Value) : Except DatasetError (List Sheet) :=
  match v with
  | .mapping entries =>
    match Keyed.get? entries "tables" with
    | some (.mapping tables) => tables.mapM fun (name, v) => Sheet.ofValue name v
    | _ => .error (.noTables database)
  | _ => .error (.databaseNotMapping database)

def ofValue (v : Value) : Except DatasetError Dataset :=
  match v with
  | .mapping entries =>
    match Keyed.get? entries "databases" with
    | some (.mapping databases) => do
      return ⟨← databases.mapM fun (name, v) => do return (name, ← sheetsOf name v)⟩
    | _ => .error .noDatabases
  | _ => .error .noDatabases

def ofFile (depth : Nat) (content : Option Text) : Except LoadError Dataset :=
  match content.map (Json.read depth) with
  | none | some (.error .malformed) => .error (.dataset .unreadable)
  | some (.error refusal) => .error (.document refusal)
  | some (.ok v) => (ofValue v).mapError .dataset

def toValue (dataset : Dataset) : Value :=
  .mapping [("databases", .mapping (dataset.databases.map fun (name, sheets) =>
    (name, .mapping [("tables", .mapping (sheets.map fun sheet => (sheet.name, sheet.toValue)))])))]

end Dataset

end SqlConsole
