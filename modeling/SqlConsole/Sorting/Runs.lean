/-!
# Sorting by runs

A list is sorted by a comparison that need not be an order, so that it matters which items are
compared. The runs of the list are taken as they stand, short ones are filled up by binary
insertion, and neighbouring runs are merged, the ones of the greater power first.
-/

namespace SqlConsole.Sorting

variable {α : Type}

/-! ### Runs -/

/-- The items that go on with an ascending run behind its last one, and the rest. -/
def ascent (lt : α → α → Bool) (last : α) : List α → List α × List α
  | [] => ([], [])
  | x :: xs =>
    if lt x last then ([], x :: xs)
    else
      let (run, rest) := ascent lt x xs
      (x :: run, rest)

def descent (lt : α → α → Bool) (last : α) : List α → List α × List α
  | [] => ([], [])
  | x :: xs =>
    if lt x last then
      let (run, rest) := descent lt x xs
      (x :: run, rest)
    else ([], x :: xs)

/-- The run at the front of a list, turned round if it descends, and the rest. -/
def firstRun (lt : α → α → Bool) : List α → List α × List α
  | [] => ([], [])
  | [x] => ([x], [])
  | x :: y :: rest =>
    if lt y x then
      let (run, rest) := descent lt y rest
      ((x :: y :: run).reverse, rest)
    else
      let (run, rest) := ascent lt y rest
      (x :: y :: run, rest)

/-! ### Finding places -/

/-- Bisects between two places for the first one at which a test fails. -/
def bisect (round : Nat) (test : Nat → Bool) (low high : Nat) : Nat :=
  if low < high then
    let middle := low + (high - low - round) / 2
    if test middle then bisect round test (middle + 1) high else bisect round test low middle
  else low
termination_by high - low

/-- Doubles an offset while a test holds there: the last one at which it held, and the next. -/
def stride (test : Nat → Bool) (most last offset : Nat) : Nat × Nat :=
  if offset < most ∧ test offset then stride test most offset (2 * offset + 1)
  else (last, min offset most)
termination_by most - offset

/-- How many items at the front of a list pass a test, found by strides and bisection. -/
def reach (round : Nat) (test : α → Bool) (items : List α) : Nat :=
  let passes := fun i => items[i]?.any test
  if passes 0 then
    let (last, offset) := stride passes items.length 0 1
    bisect round passes (last + 1) offset
  else 0

/-- A run with one more item, behind those that it does not come before. -/
def insert (lt : α → α → Bool) (run : List α) (x : α) : List α :=
  let place := bisect 0 (fun i => run[i]?.any fun y => !lt x y) 0 run.length
  run.take place ++ x :: run.drop place

/-! ### Merging two runs -/

inductive Move where
  | leftRun
  | rightRun
  | leftOne
  | rightOne

/-- The items that a move takes from two runs, and what is left of them. Here `lt y x` says that an
item `y` of the right run comes before an item `x` of the left one. -/
def Move.take (lt : α → α → Bool) (round : Nat) (left right : List α) :
    Move → List α × List α × List α
  | leftRun =>
    let count := reach round (fun x => right.head?.any fun y => !lt y x) left
    (left.take count, left.drop count, right)
  | rightRun =>
    let count := reach round (fun y => left.head?.any fun x => lt y x) right
    (right.take count, left, right.drop count)
  | leftOne => (left.take 1, left.drop 1, right)
  | rightOne => (right.take 1, left, right.drop 1)

def longStretch : Nat := 7

mutual

/-- Merges item by item until one of the runs has won often enough in a row. The last item of the
left run goes behind all others. The second part is the bar for winning often enough after it. -/
def mergeOnes (lt : α → α → Bool) (round : Nat) (moves : List Move) :
    (fuel bar leftWins rightWins : Nat) → List α → List α → List α × Nat
  | 0, bar, _, _, left, right => (right ++ left, bar)
  | fuel + 1, bar, leftWins, rightWins, left, right =>
    match left, right with
    | x :: x' :: xs, y :: ys =>
      if lt y x then
        let (out, bar) :=
          if rightWins + 1 < bar then
            mergeOnes lt round moves fuel bar 0 (rightWins + 1) (x :: x' :: xs) ys
          else mergeStretches lt round moves fuel bar false moves (x :: x' :: xs) ys
        (y :: out, bar)
      else
        let (out, bar) :=
          if leftWins + 1 < bar then
            mergeOnes lt round moves fuel bar (leftWins + 1) 0 (x' :: xs) (y :: ys)
          else mergeStretches lt round moves fuel bar false moves (x' :: xs) (y :: ys)
        (x :: out, bar)
    | left, right => (right ++ left, bar)
termination_by structural fuel => fuel

def mergeStretches (lt : α → α → Bool) (round : Nat) (moves : List Move) :
    (fuel bar : Nat) → (long : Bool) → List Move → List α → List α → List α × Nat
  | 0, bar, _, _, left, right => (right ++ left, bar)
  | fuel + 1, bar, long, next, left, right =>
    if left.length ≤ 1 ∨ right = [] then (right ++ left, bar)
    else
      match next with
      | [] =>
        if long then mergeStretches lt round moves fuel (max 1 (bar - 1)) false moves left right
        else mergeOnes lt round moves fuel (bar + 1) 0 0 left right
      | move :: next =>
        let (taken, left, right) := move.take lt round left right
        let (out, bar) :=
          mergeStretches lt round moves fuel bar (long || longStretch ≤ taken.length) next left right
        (taken ++ out, bar)
termination_by structural fuel => fuel

end

/-- Merges two runs of which the right one has the first item. Each round of moves takes an item at
least every third time, which bounds the fuel. -/
def mergeFrom (lt : α → α → Bool) (round : Nat) (moves : List Move) (bar : Nat)
    (left right : List α) : List α × Nat :=
  match right with
  | [] => (left, bar)
  | y :: ys =>
    let (out, bar) :=
      mergeOnes lt round moves (3 * (left.length + ys.length) + 3) bar 0 0 left ys
    (y :: out, bar)

/-- Merges two neighbouring runs. The items at both ends that stay where they are take no part, and
the shorter run is what is gone through from its outer end. -/
def mergeRuns (lt : α → α → Bool) (bar : Nat) (left right : List α) : List α × Nat :=
  let front := reach 0 (fun x => right.head?.all fun y => !lt y x) left
  let inner := left.drop front
  let back := reach 1 (fun y => inner.getLast?.all fun x => !lt y x) right.reverse
  let outer := right.take (right.length - back)
  let (out, bar) :=
    if inner.length ≤ outer.length then
      mergeFrom lt 0 [.leftRun, .rightOne, .rightRun, .leftOne] bar inner outer
    else
      let (out, bar) := mergeFrom (fun y x => lt x y) 1 [.rightRun, .leftOne, .leftRun, .rightOne]
        bar outer.reverse inner.reverse
      (out.reverse, bar)
  (left.take front ++ out ++ right.drop (right.length - back), bar)

/-! ### Which runs are merged -/

structure Pending (α : Type) where
  start : Nat
  power : Nat
  items : List α

/-- The power of the border between two runs: the first binary digit in which their middles, as
parts of the whole length, differ. Both middles are given doubled. -/
def power (length : Nat) : (fuel left right : Nat) → Nat
  | 0, _, _ => 0
  | fuel + 1, left, right =>
    if length ≤ left then power length fuel (2 * (left - length)) (2 * (right - length)) + 1
    else if length ≤ right then 1
    else power length fuel (2 * left) (2 * right) + 1

def collapse (lt : α → α → Bool) (power bar : Nat) (last : Pending α) :
    List (Pending α) → List (Pending α) × Nat
  | [] => ([last], bar)
  | before :: rest =>
    if power < before.power then
      let (items, bar) := mergeRuns lt bar before.items last.items
      collapse lt power bar ⟨before.start, power, items⟩ rest
    else (last :: before :: rest, bar)

/-- Adds a run behind those that wait, the last one first. -/
def push (lt : α → α → Bool) (length bar start : Nat) (run : List α) :
    List (Pending α) → List (Pending α) × Nat
  | [] => ([⟨start, 0, run⟩], bar)
  | last :: rest =>
    let middle := 2 * last.start + last.items.length
    let power := power length (length + 1) middle (middle + last.items.length + run.length)
    let (waiting, bar) := collapse lt power bar { last with power } rest
    (⟨start, 0, run⟩ :: waiting, bar)

/-- Merges all runs that wait, the last one first. A run is merged with the shorter one of its
neighbours. -/
def finish (lt : α → α → Bool) : (fuel bar : Nat) → List (List α) → List α
  | 0, _, waiting => waiting.reverse.flatten
  | _ + 1, _, [] => []
  | _ + 1, _, [run] => run
  | fuel + 1, bar, last :: middle :: first :: rest =>
    if first.length < last.length then
      let (run, bar) := mergeRuns lt bar first middle
      finish lt fuel bar (last :: run :: rest)
    else
      let (run, bar) := mergeRuns lt bar middle last
      finish lt fuel bar (run :: first :: rest)
  | _ + 1, bar, [last, first] => (mergeRuns lt bar first last).1

/-! ### The whole list -/

/-- The least length of a run: a list of less than 64 items is one run, and a longer one is cut into
a power of two of them, or a little less. -/
def leastRun (length : Nat) : Nat := shrink length 0
where
  shrink (length odd : Nat) : Nat :=
    if length < 64 then length + odd else shrink (length / 2) (max odd (length % 2))
  termination_by length

def pushRuns (lt : α → α → Bool) (length : Nat) :
    (fuel bar start : Nat) → List (Pending α) → List α → List (Pending α) × List α × Nat
  | 0, bar, _, waiting, items => (waiting, items, bar)
  | _ + 1, bar, _, waiting, [] => (waiting, [], bar)
  | fuel + 1, bar, start, waiting, x :: xs =>
    let (run, rest) := firstRun lt (x :: xs)
    let lacking := leastRun length - run.length
    let run := (rest.take lacking).foldl (insert lt) run
    let (waiting, bar) := push lt length bar start run waiting
    pushRuns lt length fuel bar (start + run.length) waiting (rest.drop lacking)

def sort (lt : α → α → Bool) (items : List α) : List α :=
  let (waiting, rest, bar) := pushRuns lt items.length items.length longStretch 0 [] items
  finish lt waiting.length bar (waiting.map (·.items)) ++ rest

end SqlConsole.Sorting
