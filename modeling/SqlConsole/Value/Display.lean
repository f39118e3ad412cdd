import SqlConsole.Number.Shortest
import SqlConsole.Text.Quoted
import SqlConsole.Value.Basic

/-!
# Values as text

A value has a written form, which shows its kind (`written`), and the form of a cell on the
console (`display`), where a real number without fractional part looks like an integer. Both are
the forms of values that are `isWritable`. Any other value has none, and a query that asks for it
fails; no dataset file holds such a value.
-/

namespace SqlConsole.Value

/-- Real numbers from 0.0001 up to below 10^16 are written positionally, and an exponent has at
least two digits. -/
def realLayout : Binary64.Layout := ⟨-3, 16, 2⟩

mutual

def quote : Value → Text
  | null => "None"
  | bool true => "True"
  | bool false => "False"
  | integer n => Text.integer n
  | real x => x.write realLayout
  | text t => t.quote
  | list items => "[" ++ List.intercalate ", " (quoteItems items) ++ "]"
  | mapping entries => "\x7b" ++ List.intercalate ", " (quoteEntries entries) ++ "\x7d"
termination_by structural v => v

def quoteItems : List Value → List Text
  | [] => []
  | v :: vs => quote v :: quoteItems vs
termination_by structural vs => vs

def quoteEntries : List (Text × Value) → List Text
  | [] => []
  | (key, v) :: es => (key.quote ++ ": " ++ quote v) :: quoteEntries es
termination_by structural es => es

end

mutual

def isWritable : Value → Bool
  | integer n => n.natAbs < Nat.pow 10 Text.digitLimit
  | list items => areWritable items
  | mapping entries => entriesAreWritable entries
  | _ => true
termination_by structural v => v

def areWritable : List Value → Bool
  | [] => true
  | v :: vs => isWritable v && areWritable vs
termination_by structural vs => vs

def entriesAreWritable : List (Text × Value) → Bool
  | [] => true
  | (_, v) :: es => isWritable v && entriesAreWritable es
termination_by structural es => es

end

/-- The written form of a value: text as it is, all else as inside a compound value. -/
def written : Value → Text
  | text t => t
  | v => quote v

def display : Value → Text
  | null => "NULL"
  | real x => if x.isIntegral then Text.integer x.truncate else (real x).written
  | v => v.written

end SqlConsole.Value
