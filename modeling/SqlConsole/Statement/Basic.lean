import SqlConsole.Text.Blank
import SqlConsole.Value.Comparison
import SqlConsole.Value.Order

/-!
# Statements

What a line of input asks for, together with the line itself.
-/

namespace SqlConsole

inductive Dialect where
  | postgres
  | mysql
  deriving DecidableEq, Repr

def Dialect.name : Dialect → Text
  | postgres => "postgres"
  | mysql => "mysql"

def Dialect.of (command : Text) : Dialect :=
  if command.trimLeft.head? = some (.char '\\') then postgres else mysql

structure Condition where
  column : Text
  operator : Operator
  literal : Value
  deriving DecidableEq

structure SortItem where
  column : Text
  direction : Direction
  deriving DecidableEq

/-- What a query asks for. Columns are as the source text has them. -/
structure Selection where
  columns : List Text
  table : Text
  tableAlias : Option Text
  condition : Option Condition
  groupBy : List Text
  orderBy : List SortItem
  limit : Option Nat
  offset : Option Nat
  deriving DecidableEq

inductive WriteOperation where
  | insert
  | update
  | delete
  | createTable
  | dropTable
  | other (name : Text)
  deriving DecidableEq

def WriteOperation.name : WriteOperation → Text
  | insert => "INSERT"
  | update => "UPDATE"
  | delete => "DELETE"
  | createTable => "CREATE_TABLE"
  | dropTable => "DROP_TABLE"
  | other name => name

inductive Request where
  | showDatabases
  | showTables
  | select (selection : Selection)
  | useDatabase (database : Text)
  | describeTable (table : Text)
  | exit
  | cancel
  | refused (message token : Text)
  | write (operation : WriteOperation)
  | nothing
  deriving DecidableEq

def Request.kind : Request → Text
  | showDatabases => "ShowDatabases"
  | showTables => "ShowTables"
  | select _ => "SelectStatement"
  | useDatabase _ => "UseDatabase"
  | describeTable _ => "DescribeTable"
  | exit => "Exit"
  | cancel => "Cancel"
  | refused _ _ => "ErrorStatement"
  | write _ => "ReadOnlyStatement"
  | nothing => "Statement"

structure Statement where
  command : Text
  request : Request
  deriving DecidableEq

namespace Statement

def dialect (s : Statement) : Dialect := .of s.command

end Statement

end SqlConsole
