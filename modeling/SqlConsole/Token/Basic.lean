import SqlConsole.Text.Quoted

/-!
# Tokens

The lexemes of statements, each with its place in the source text.
-/

namespace SqlConsole

inductive Keyword where
  | select | from | where | group | order | by | limit | offset | asc | desc | as
  | and | or | not | like | join | on
  | show | databases | tables | columns | in | use | describe | exit
  | insert | update | delete | create | drop | table
  deriving DecidableEq, Repr

namespace Keyword

def name : Keyword → Text
  | .select => "SELECT" | .from => "FROM" | .where => "WHERE" | .group => "GROUP"
  | .order => "ORDER" | .by => "BY" | .limit => "LIMIT" | .offset => "OFFSET"
  | .asc => "ASC" | .desc => "DESC" | .as => "AS"
  | .and => "AND" | .or => "OR" | .not => "NOT" | .like => "LIKE" | .join => "JOIN" | .on => "ON"
  | .show => "SHOW" | .databases => "DATABASES" | .tables => "TABLES" | .columns => "COLUMNS"
  | .in => "IN" | .use => "USE" | .describe => "DESCRIBE" | .exit => "EXIT"
  | .insert => "INSERT" | .update => "UPDATE" | .delete => "DELETE"
  | .create => "CREATE" | .drop => "DROP" | .table => "TABLE"

def spelling : Keyword → Text
  | .select => "select" | .from => "from" | .where => "where" | .group => "group"
  | .order => "order" | .by => "by" | .limit => "limit" | .offset => "offset"
  | .asc => "asc" | .desc => "desc" | .as => "as"
  | .and => "and" | .or => "or" | .not => "not" | .like => "like" | .join => "join" | .on => "on"
  | .show => "show" | .databases => "databases" | .tables => "tables" | .columns => "columns"
  | .in => "in" | .use => "use" | .describe => "describe" | .exit => "exit"
  | .insert => "insert" | .update => "update" | .delete => "delete"
  | .create => "create" | .drop => "drop" | .table => "table"

def all : List Keyword := [
  .select, .from, .where, .group, .order, .by, .limit, .offset, .asc, .desc, .as,
  .and, .or, .not, .like, .join, .on, .show, .databases, .tables, .columns, .in, .use, .describe,
  .exit, .insert, .update, .delete, .create, .drop, .table]

def ofSpelling? (spelling : Text) : Option Keyword :=
  all.find? (·.spelling == spelling)

end Keyword

inductive TokenKind where
  | keyword (k : Keyword)
  | identifier
  | text
  | integer
  | decimal
  | eq
  | ne
  | lt
  | gt
  | le
  | ge
  | star
  | arithmetic
  | comma
  | semicolon
  | openParen
  | closeParen
  | dot
  | stop
  /-- A code point that starts no other token. -/
  | stray
  deriving DecidableEq, Repr

def TokenKind.name : TokenKind → Text
  | keyword k => k.name
  | identifier => "IDENTIFIER"
  | text => "STRING_LITERAL"
  | integer => "NUMBER"
  | decimal => "FLOAT_LITERAL"
  | eq => "EQ"
  | ne => "NEQ"
  | lt => "LT"
  | gt => "GT"
  | le => "LTE"
  | ge => "GTE"
  | star => "STAR"
  | arithmetic => "ARITHMETIC"
  | comma => "COMMA"
  | semicolon => "SEMICOLON"
  | openParen => "LPAREN"
  | closeParen => "RPAREN"
  | dot => "DOT"
  | stop => "EOF"
  | stray => "ERROR"

/-- A place in a source text: lines and columns count from one, the offset from zero. -/
structure Position where
  line : Nat
  column : Nat
  offset : Nat
  deriving DecidableEq, Repr

/-- A token. Its value is the source text from `start` up to `stop`, without quotes and escapes if
it is a text. -/
structure Token where
  kind : TokenKind
  value : Text
  line : Nat
  column : Nat
  start : Nat
  stop : Nat
  deriving DecidableEq, Repr

namespace Token

def report (t : Token) : Text :=
  "Token(" ++ t.kind.name ++ ", " ++ t.value.quote ++ ", " ++ Text.decimal t.line ++ ":" ++
    Text.decimal t.column ++ ")"

end Token

end SqlConsole
