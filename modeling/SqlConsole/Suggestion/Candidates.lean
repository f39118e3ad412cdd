import SqlConsole.Catalog
import SqlConsole.Suggestion.Context
import SqlConsole.Text.Lowercase

/-!
# Candidates

What may be typed next. The context decides which names are offered, and of those the ones that
start with the word that is being typed, in any case, are kept.
-/

namespace SqlConsole.Suggestion

def metaCommands : List Text := ["\\l", "\\dt", "\\d", "\\c", "\\q"]

def keywords : List Text := [
  "SELECT", "FROM", "WHERE", "GROUP BY", "ORDER BY", "LIMIT", "USE", "SHOW", "DESCRIBE", "TABLES",
  "DATABASES", "EXIT", "JOIN", "LEFT JOIN", "RIGHT JOIN", "INNER JOIN", "ON", "AND", "OR", "NOT",
  "IN", "LIKE", "IS NULL", "IS NOT NULL", "ASC", "DESC", "HAVING"]

def startsWith (start t : Text) : Bool := start.isPrefixOf t

def inCommand (context : Text) : Bool :=
  startsWith "\\" context && !context.any CodePoint.isBlank

def inDatabase (context : Text) : Bool :=
  startsWith "use " context || startsWith "\\c " context

def needsDatabase (context : Text) : Bool := !inCommand context && !inDatabase context

/-- The columns of the tables that are referenced. An alias is offered with each column first. -/
def referencedColumns (references : List Reference) (database : Database) : List Text :=
  references.flatMap fun reference =>
    match database.table? reference.table with
    | none => []
    | some table =>
      (match reference.tableAlias with
        | some qualifier => table.columns.map fun column => qualifier ++ "." ++ column
        | none => []) ++ table.columns

def allColumns (database : Database) : List Text := database.tables.flatMap (·.columns)

def databaseCandidates (context : Text) (database : Database) : List Text :=
  if startsWith "\\d " context then database.tableNames
  else
    let references := tableReferences context
    if inCondition context || inJoin context then referencedColumns references database
    else if inTable context then database.tableNames
    else if inList context || inHaving context then referencedColumns references database
    else if startsWith "select " context then
      if references = [] then allColumns database else referencedColumns references database
    else keywords

def candidates (catalog : Catalog) (context : Text) (database : Option Text) : List Text :=
  if inCommand context then metaCommands
  else if inDatabase context then catalog.databaseNames
  else
    match database.bind catalog.database? with
    | none => []
    | some database => databaseCandidates context database

def contextOf (text : Text) : Text := text.lower.trimLeft

def complete (catalog : Catalog) (text : Text) (database : Option Text) : List Text :=
  let start := (currentWord text).lower
  ((candidates catalog (contextOf text) database).filter fun candidate =>
    start.isPrefixOf candidate.lower).eraseDups

end SqlConsole.Suggestion
