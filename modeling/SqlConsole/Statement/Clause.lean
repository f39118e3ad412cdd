import SqlConsole.Statement.Fault

/-!
# Clauses of a query

The tokens of a query are cut at the words that start its clauses (`cutClauses`), and the tokens of
a clause at its commas (`cutItems`). Neither looks inside parentheses.
-/

namespace SqlConsole

inductive Clause where
  | from
  | where
  | group
  | order
  | limit
  | offset
  deriving DecidableEq, Repr

namespace Clause

def rank : Clause → Nat
  | .from => 0
  | .where => 1
  | .group => 2
  | .order => 3
  | .limit => 4
  | .offset => 5

def ofKind? : TokenKind → Option Clause
  | .keyword .from => some .from
  | .keyword .where => some .where
  | .keyword .group => some .group
  | .keyword .order => some .order
  | .keyword .limit => some .limit
  | .keyword .offset => some .offset
  | _ => none

def takesBy : Clause → Bool
  | .group => true
  | .order => true
  | _ => false

def follows (clause : Clause) : Option Clause → Bool
  | none => true
  | some earlier => earlier.rank < clause.rank

end Clause

structure Section where
  clause : Clause
  opening : Token
  body : List Token
  deriving DecidableEq

def Token.depthChange (t : Token) : Int :=
  match t.kind with
  | .openParen => 1
  | .closeParen => -1
  | _ => 0

/-- Cuts tokens, from a depth of parentheses on and after the last clause that was found, into those
before the first clause and the clauses. Ends at the token that marks the end. -/
def cutClauses (last : Option Clause) (depth : Int) :
    List Token → Except Fault (List Token × List Section)
  | [] => .ok ([], [])
  | t :: ts =>
    if t.kind = .stop then .ok ([], [])
    else if depth = 0 ∧ t.kind = .keyword .join then .error (.joinUnsupported t.value)
    else
      match if depth = 0 then Clause.ofKind? t.kind else none with
      | none => do
        let (before, sections) ← cutClauses last (depth + t.depthChange) ts
        return (t :: before, sections)
      | some clause =>
        if clause.takesBy then
          match ts with
          | [] => .error .endOfInput
          | u :: us =>
            if u.kind ≠ .keyword .by then .error (.atToken u)
            else if !clause.follows last then .error (.atToken t)
            else do
              let (body, sections) ← cutClauses (some clause) 0 us
              return ([], ⟨clause, t, body⟩ :: sections)
        else if !clause.follows last then .error (.atToken t)
        else do
          let (body, sections) ← cutClauses (some clause) 0 ts
          return ([], ⟨clause, t, body⟩ :: sections)

/-- Cuts tokens at the commas outside parentheses, from a depth on and after the tokens `item` of
the current item. An empty item is a fault at the token after it, which is `follow` at the end. -/
def cutItemsFrom (follow : Token) (depth : Int) (item : List Token) :
    List Token → Except Fault (List (List Token))
  | [] => if item = [] then .error (.atToken follow) else .ok [item]
  | t :: ts =>
    if t.kind = .comma ∧ depth = 0 then
      if item = [] then .error (.atToken t)
      else do return item :: (← cutItemsFrom follow 0 [] ts)
    else cutItemsFrom follow (depth + t.depthChange) (item ++ [t]) ts

def cutItems (follow : Token) (tokens : List Token) : Except Fault (List (List Token)) :=
  cutItemsFrom follow 0 [] tokens

end SqlConsole
