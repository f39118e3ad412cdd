import SqlConsole.Catalog
import SqlConsole.Statement.Basic
import SqlConsole.Text.Lowercase

/-!
# Plans

A plan is a selection whose names are resolved: columns are places in the table. A column that is
named exactly wins over one that is named in another case, and of those the first one wins.
-/

namespace SqlConsole

inductive QueryError where
  | unknownDatabase (database : Option Text)
  | unknownTable (table : Text)
  | unknownColumn (reference table : Text)
  | unsupportedPlan (kind : Option Text)
  | execution (error : ExecutionError)
  deriving DecidableEq

def QueryError.message : QueryError → Text
  | unknownDatabase database => "Database \"" ++ database.getD "None" ++ "\" does not exist"
  | unknownTable table => "Table \"" ++ table ++ "\" not found"
  | unknownColumn reference table =>
    "Column \"" ++ reference ++ "\" not found in table \"" ++ table ++ "\""
  | unsupportedPlan kind => "Unsupported plan type: " ++ kind.getD "None"
  | execution error => "Execution error: " ++ error.message

structure Filter where
  index : Nat
  operator : Operator
  literal : Value
  deriving DecidableEq

structure Plan where
  table : Table
  columns : List Nat
  filter : Option Filter
  groupBy : List Nat
  orderBy : List (Nat × Direction)
  limit : Option Nat
  offset : Option Nat

namespace Plan

def kind : Text := "SELECT"

def checkKind (name : Option Text) : Except QueryError Unit :=
  if name = some kind then .ok () else .error (.unsupportedPlan name)

def columnNames (plan : Plan) : List Text := plan.columns.filterMap (plan.table.columns[·]?)

/-! ### Resolving names -/

def isQualifier (selection : Selection) (qualifier : Text) : Bool :=
  qualifier == selection.table || some qualifier == selection.tableAlias

/-- A reference cut at its first point into a qualifier, if there is a point, and a name. -/
def cutReference (reference : Text) : Option Text × Text :=
  match reference.span (· != .char '.') with
  | (qualifier, _ :: name) => (some qualifier, name)
  | (_, []) => (none, reference)

/-- The place of a column by its name: the column of exactly this name, otherwise the first column
of this name in another case. -/
def columnPlace? (table : Table) (name : Text) : Option Nat :=
  match table.columnIndex? name with
  | some index => some index
  | none => table.columns.findIdx? fun column => column.lower == name.lower

def resolve (selection : Selection) (table : Table) (reference : Text) : Except QueryError Nat :=
  match cutReference reference with
  | (some qualifier, name) =>
    if isQualifier selection qualifier then place name else .error (.unknownTable qualifier)
  | (none, name) => place name
where
  place (name : Text) : Except QueryError Nat :=
    match columnPlace? table name with
    | some index => .ok index
    | none => .error (.unknownColumn reference table.name)

def isStar (selection : Selection) (column : Text) : Bool :=
  match column.reverse with
  | [.char '*'] => true
  | .char '*' :: .char '.' :: qualifier => isQualifier selection qualifier.reverse
  | _ => false

def expand (selection : Selection) (table : Table) (column : Text) : Except QueryError (List Nat) :=
  if isStar selection column then .ok (List.range table.columns.length)
  else do return [← resolve selection table column]

def resolveCondition (selection : Selection) (table : Table) (condition : Condition) :
    Except QueryError Filter := do
  return ⟨← resolve selection table condition.column, condition.operator, condition.literal⟩

def ofTable (selection : Selection) (table : Table) : Except QueryError Plan := do
  let columns ← selection.columns.mapM (expand selection table)
  let filter ← selection.condition.mapM (resolveCondition selection table)
  let groupBy ← selection.groupBy.mapM (resolve selection table)
  let orderBy ← selection.orderBy.mapM fun item => do
    return (← resolve selection table item.column, item.direction)
  return {
    table, filter, groupBy, orderBy
    columns := columns.flatten
    limit := selection.limit
    offset := selection.offset }

def ofSelection (selection : Selection) (database : Database) : Except QueryError Plan :=
  match database.table? selection.table with
  | some table => ofTable selection table
  | none => .error (.unknownTable selection.table)

end Plan

end SqlConsole
