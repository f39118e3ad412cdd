import SqlConsole.Statement.Basic
import SqlConsole.Statement.Clause

/-!
# Queries

The selection that the tokens of a query describe.
-/

namespace SqlConsole.Query

def slice (source : Text) (tokens : List Token) : Text :=
  match tokens.head?, tokens.getLast? with
  | some first, some last =>
    Text.trim ((source.drop first.start).take (last.stop - first.start))
  | _, _ => []

/-! ### The table -/

/-- The alias after a table: a name, with or without a word before it. -/
def tableAlias? (follow : Token) : List Token → Except Fault (Option Text)
  | [] => .ok none
  | t :: ts =>
    if t.kind = .keyword .as then
      match ts with
      | [] => .error (.atToken follow)
      | t :: ts => named t ts
    else named t ts
where
  named (t : Token) (ts : List Token) : Except Fault (Option Text) :=
    if t.kind ≠ .identifier then .error (.atToken t)
    else
      match ts with
      | [] => .ok (some t.value)
      | u :: _ => .error (.atToken u)

def source? (follow : Token) : List Token → Except Fault (Text × Option Text)
  | [] => .error (.atToken follow)
  | t :: ts =>
    if t.kind ≠ .identifier then .error (.atToken t)
    else do return (t.value, ← tableAlias? follow ts)

/-! ### The condition -/

def operator? : TokenKind → Option Operator
  | .eq => some .eq
  | .ne => some .ne
  | .lt => some .lt
  | .gt => some .gt
  | .le => some .le
  | .ge => some .ge
  | .keyword .like => some .like
  | _ => none

/-- The number that a token is, with a sign, if it is not too long to be read. -/
def number? (negative : Bool) (t : Token) : Option (Except Overlong Value) :=
  match t.kind with
  | .integer =>
    some (t.value.natural?.map fun (n : Nat) => .integer (if negative then -(n : Int) else n))
  | .decimal =>
    (Numeral.read? t.value).map fun x => .ok (.real (if negative then x.neg else x))
  | _ => none

/-- The literal that tokens start with: a text, or a number with or without a sign. -/
def literal? : List Token → Option (Except Overlong Value)
  | [] => none
  | t :: ts =>
    if t.kind = .text then some (.ok (.text t.value))
    else if t.kind = .arithmetic ∧ (t.value = "-" ∨ t.value = "+") then
      ts.head?.bind (number? (t.value = "-"))
    else number? false t

/-- The column reference that tokens start with, a name or two names with a point between them, and
the tokens after it. -/
def reference? : List Token → Option (List Token × List Token)
  | t :: d :: u :: ts =>
    if t.kind ≠ .identifier then none
    else if d.kind = .dot ∧ u.kind = .identifier then some ([t, d, u], ts)
    else some ([t], d :: u :: ts)
  | t :: ts => if t.kind = .identifier then some ([t], ts) else none
  | [] => none

/-- The comparison that tokens start with, if its literal can be read. -/
def comparison? (source : Text) (tokens : List Token) : Option (Except Overlong Condition) := do
  let (column, rest) ← reference? tokens
  match rest with
  | [] => none
  | t :: rest =>
    let operator ← operator? t.kind
    let literal ← literal? rest
    return literal.map (⟨slice source column, operator, ·⟩)

/-- The first comparison in a list of tokens; all else is passed over. -/
def condition? (source : Text) : List Token → Option (Except Overlong Condition)
  | [] => none
  | t :: ts =>
    match comparison? source (t :: ts) with
    | some condition => some condition
    | none => condition? source ts

/-! ### The other clauses -/

def columns? (source : Text) (follow : Token) (tokens : List Token) : Except Fault (List Text) := do
  return (← cutItems follow tokens).map (slice source)

def direction? (item : List Token) : Direction × List Token :=
  match item.getLast?.map Token.kind with
  | some (.keyword .asc) => (.ascending, item.dropLast)
  | some (.keyword .desc) => (.descending, item.dropLast)
  | _ => (.ascending, item)

/-- The column and the direction of an item. An item without a column is a fault at the first token
of its clause. -/
def sortItem? (source : Text) (clause item : List Token) : Except Fault SortItem :=
  let (direction, column) := direction? item
  match column, clause with
  | [], t :: _ => .error (.atToken t)
  | column, _ => .ok ⟨slice source column, direction⟩

def sortItems? (source : Text) (follow : Token) (tokens : List Token) :
    Except Fault (List SortItem) := do
  (← cutItems follow tokens).mapM (sortItem? source tokens)

def count? (follow : Token) : List Token → Except Fault Nat
  | [] => .error (.atToken follow)
  | t :: ts =>
    if t.kind ≠ .integer then .error (.atToken t)
    else
      match ts with
      | [] => t.value.natural?.mapError .overlong
      | u :: _ => .error (.atToken u)

/-! ### The whole query -/

def body? (clause : Clause) (stop : Token) : List Section → Option (List Token × Token)
  | [] => none
  | s :: rest =>
    if s.clause = clause then some (s.body, (rest.head?.map (·.opening)).getD stop)
    else body? clause stop rest

def clause? {α : Type} (clause : Clause) (stop : Token) (sections : List Section)
    (read : Token → List Token → Except Fault α) : Except Fault (Option α) :=
  match body? clause stop sections with
  | some (body, follow) => some <$> read follow body
  | none => .ok none

def filter? (source : Text) (follow : Token) (body : List Token) :
    Except Fault (Option Condition) :=
  if body = [] then .error (.atToken follow)
  else (condition? source body).mapM fun condition => condition.mapError .overlong

/-- The selection of the tokens after the first word of a query. The last token marks the end. -/
def ofTokens? (source : Text) (tokens : List Token) : Except Fault Selection := do
  let stop := tokens.getLast?.getD ⟨.stop, "", 1, 1, 0, 0⟩
  let (before, sections) ← cutClauses none 0 tokens
  match body? .from stop sections with
  | none => .error (.atToken ((sections.head?.map (·.opening)).getD stop))
  | some (body, follow) =>
    let opening := (sections.head?.map (·.opening)).getD stop
    let columns ← columns? source opening before
    let (table, tableAlias) ← source? follow body
    let condition ← clause? .where stop sections (filter? source)
    let groupBy ← clause? .group stop sections (columns? source)
    let orderBy ← clause? .order stop sections (sortItems? source)
    let limit ← clause? .limit stop sections count?
    let offset ← clause? .offset stop sections count?
    return {
      columns, table, tableAlias, limit, offset
      condition := condition.join
      groupBy := groupBy.getD []
      orderBy := orderBy.getD [] }

end SqlConsole.Query
