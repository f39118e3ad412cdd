import SqlConsole.Sorting.Runs
import SqlConsole.Value.Display

/-!
# The order of values

Values are sorted by a key: numbers come first in the order of their values, then all else in the
order of its written form by code points, and missing values come last. What is not a number is in
no order with other numbers and may keep them from being sorted.
-/

namespace SqlConsole

inductive SortKey where
  | number (a : Number)
  | text (t : Text)
  | null
  deriving DecidableEq

inductive Direction where
  | ascending
  | descending
  deriving DecidableEq, Repr

def Direction.name : Direction → Text
  | ascending => "ASC"
  | descending => "DESC"

def Value.sortKey (v : Value) : SortKey :=
  match v with
  | .null => .null
  | v =>
    match v.number? with
    | some a => .number a
    | none => .text v.written

/-- The key of a value, if it can be written. -/
def Value.sortKey? (v : Value) : Except Overlong SortKey :=
  if v.number?.isSome || v.isWritable then .ok v.sortKey else .error .integer

namespace SortKey

/-- Whether a key comes before another. What is not a number comes neither before a number nor
after it. -/
def lt : SortKey → SortKey → Bool
  | number a, number b => a.compare? b == some .lt
  | number _, _ => true
  | text s, text t => s.compare t == .lt
  | text _, null => true
  | _, _ => false

/-- Whether a collection takes two keys for the same. -/
def same : SortKey → SortKey → Bool
  | number a, number b => a.same b || a == b
  | text s, text t => s == t
  | null, null => true
  | _, _ => false

/-- Whether a key is in order with all others. -/
def isComparable : SortKey → Bool
  | number a => a.isNumber
  | _ => true

def ltIn : Direction → SortKey → SortKey → Bool
  | .ascending, a, b => a.lt b
  | .descending, a, b => b.lt a

end SortKey

/-- Sorts a list by a key in a direction. Items of equal keys keep their order in both directions.
Where all keys are in order it does not matter how they are sorted. -/
def sortBy {α : Type} (direction : Direction) (key : α → SortKey) (items : List α) : List α :=
  if items.all fun a => (key a).isComparable then
    items.mergeSort fun a b => !SortKey.ltIn direction (key b) (key a)
  else
    let lt := fun a b => (key a).lt (key b)
    match direction with
    | .ascending => Sorting.sort lt items
    | .descending => (Sorting.sort lt items.reverse).reverse

end SqlConsole
