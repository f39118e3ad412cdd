import SqlConsole.Sorting.Runs
import Mathlib.Data.List.Perm.Basic

/-!
# Sorting by runs loses nothing

Whatever the comparison is, each step of sorting by runs only moves items, so a sorted list is a
permutation of the list that it was sorted from (`Sorting.sort_perm`).
-/

namespace SqlConsole.Sorting

variable {α : Type} {lt : α → α → Bool}

/-! ### Runs -/

theorem ascent_append (last : α) (items : List α) :
    (ascent lt last items).1 ++ (ascent lt last items).2 = items := by
  induction items generalizing last with
  | nil => rfl
  | cons x xs ih =>
    rw [ascent]
    split
    · rfl
    · exact congrArg (x :: ·) (ih x)

theorem descent_append (last : α) (items : List α) :
    (descent lt last items).1 ++ (descent lt last items).2 = items := by
  induction items generalizing last with
  | nil => rfl
  | cons x xs ih =>
    rw [descent]
    split
    · exact congrArg (x :: ·) (ih x)
    · rfl

theorem firstRun_perm (items : List α) :
    ((firstRun lt items).1 ++ (firstRun lt items).2).Perm items := by
  match items with
  | [] => exact .refl _
  | [x] => exact .refl _
  | x :: y :: rest =>
    rw [firstRun]
    split
    · have whole : (descent lt y rest).1 ++ (descent lt y rest).2 = rest := descent_append y rest
      calc (x :: y :: (descent lt y rest).1).reverse ++ (descent lt y rest).2
        _ |>.Perm (x :: y :: (descent lt y rest).1 ++ (descent lt y rest).2) :=
          (List.reverse_perm _).append_right _
        _ = x :: y :: rest := by rw [List.cons_append, List.cons_append, whole]
    · have whole : (ascent lt y rest).1 ++ (ascent lt y rest).2 = rest := ascent_append y rest
      exact .of_eq (congrArg (x :: y :: ·) whole)

theorem insert_perm (run : List α) (x : α) : (insert lt run x).Perm (x :: run) := by
  unfold insert
  exact List.perm_middle.trans (.of_eq (by rw [List.take_append_drop]))

theorem foldl_insert_perm (items run : List α) :
    (items.foldl (insert lt) run).Perm (run ++ items) := by
  induction items generalizing run with
  | nil => simp
  | cons x xs ih =>
    calc (xs.foldl (insert lt) (insert lt run x))
      _ |>.Perm (insert lt run x ++ xs) := ih _
      _ |>.Perm (x :: run ++ xs) := (insert_perm run x).append_right xs
      _ |>.Perm (run ++ x :: xs) := List.perm_middle.symm

/-! ### Merging -/

theorem Move.take_perm (round : Nat) (left right : List α) (move : Move) :
    ((move.take lt round left right).1 ++
      ((move.take lt round left right).2.1 ++ (move.take lt round left right).2.2)).Perm
      (left ++ right) := by
  have fromLeft (count : Nat) :
      (left.take count ++ (left.drop count ++ right)).Perm (left ++ right) :=
    .of_eq (by rw [← List.append_assoc, List.take_append_drop])
  have fromRight (count : Nat) :
      (right.take count ++ (left ++ right.drop count)).Perm (left ++ right) :=
    calc right.take count ++ (left ++ right.drop count)
      _ |>.Perm (left ++ (right.take count ++ right.drop count)) := List.perm_append_comm_assoc _ _ _
      _ = left ++ right := by rw [List.take_append_drop]
  cases move with
  | leftRun => exact fromLeft _
  | leftOne => exact fromLeft 1
  | rightRun => exact fromRight _
  | rightOne => exact fromRight 1

theorem merges_perm (round : Nat) (moves : List Move) (fuel : Nat) :
    (∀ bar leftWins rightWins (left right : List α),
      (mergeOnes lt round moves fuel bar leftWins rightWins left right).1.Perm (left ++ right)) ∧
    ∀ bar long next (left right : List α),
      (mergeStretches lt round moves fuel bar long next left right).1.Perm (left ++ right) := by
  induction fuel with
  | zero => exact ⟨fun _ _ _ _ _ => List.perm_append_comm, fun _ _ _ _ _ => List.perm_append_comm⟩
  | succ fuel ih =>
    obtain ⟨ones, stretches⟩ := ih
    refine ⟨fun bar leftWins rightWins left right => ?_, fun bar long next left right => ?_⟩
    · unfold mergeOnes
      split
      · rename_i x x' xs y ys
        split
        · dsimp only
          have moved : (y :: (x :: x' :: xs ++ ys)).Perm (x :: x' :: xs ++ y :: ys) :=
            List.perm_middle.symm
          refine .trans (.cons y ?_) moved
          split
          · exact ones _ _ _ _ _
          · exact stretches _ _ _ _ _
        · dsimp only
          refine .cons x ?_
          split
          · exact ones _ _ _ _ _
          · exact stretches _ _ _ _ _
      · exact List.perm_append_comm
    · unfold mergeStretches
      split
      · exact List.perm_append_comm
      · split
        · split
          · exact stretches _ _ _ _ _
          · exact ones _ _ _ _ _
        · rename_i move next
          exact ((stretches _ _ _ _ _).append_left _).trans (move.take_perm round left right)

theorem mergeFrom_perm (round : Nat) (moves : List Move) (bar : Nat) (left right : List α) :
    (mergeFrom lt round moves bar left right).1.Perm (left ++ right) := by
  cases right with
  | nil => exact .of_eq (List.append_nil left).symm
  | cons y ys =>
    unfold mergeFrom
    dsimp only
    generalize 3 * (left.length + ys.length) + 3 = fuel
    exact .trans (.cons y ((merges_perm round moves fuel).1 bar 0 0 left ys)) List.perm_middle.symm

theorem mergeRuns_perm (bar : Nat) (left right : List α) :
    (mergeRuns lt bar left right).1.Perm (left ++ right) := by
  unfold mergeRuns
  dsimp only
  generalize reach 0 _ left = front
  generalize right.length - reach 1 _ right.reverse = back
  -- What stays at both ends is put back around what is merged.
  have whole : left.take front ++ (left.drop front ++ right.take back) ++ right.drop back =
      left ++ right := by
    rw [← List.append_assoc, List.take_append_drop, List.append_assoc, List.take_append_drop]
  rw [← whole]
  refine .append_right _ (.append_left _ ?_)
  split
  · exact mergeFrom_perm _ _ _ _ _
  · calc (mergeFrom _ 1 _ bar (right.take back).reverse (left.drop front).reverse).1.reverse
      _ |>.Perm ((right.take back).reverse ++ (left.drop front).reverse) :=
        (List.reverse_perm _).trans (mergeFrom_perm _ _ _ _ _)
      _ = (left.drop front ++ right.take back).reverse := by rw [List.reverse_append]
      _ |>.Perm (left.drop front ++ right.take back) := List.reverse_perm _

/-! ### Runs that wait -/

def itemsOf (waiting : List (Pending α)) : List α :=
  (waiting.reverse.map Pending.items).flatten

@[simp] theorem itemsOf_cons (last : Pending α) (waiting : List (Pending α)) :
    itemsOf (last :: waiting) = itemsOf waiting ++ last.items := by
  simp [itemsOf]

theorem collapse_perm (power bar : Nat) (last : Pending α) (waiting : List (Pending α)) :
    (itemsOf (collapse lt power bar last waiting).1).Perm (itemsOf (last :: waiting)) := by
  induction waiting generalizing bar last with
  | nil => exact .refl _
  | cons before rest ih =>
    unfold collapse
    split
    · have merged : (mergeRuns lt bar before.items last.items).1.Perm
          (before.items ++ last.items) := mergeRuns_perm bar before.items last.items
      generalize mergeRuns lt bar before.items last.items = out at merged ⊢
      refine (ih _ _).trans ?_
      rw [itemsOf_cons, itemsOf_cons, itemsOf_cons, List.append_assoc]
      exact merged.append_left _
    · exact .refl _

theorem push_perm (length bar start : Nat) (run : List α) (waiting : List (Pending α)) :
    (itemsOf (push lt length bar start run waiting).1).Perm (itemsOf waiting ++ run) := by
  cases waiting with
  | nil => simp [push, itemsOf]
  | cons last rest =>
    unfold push
    rw [itemsOf_cons]
    refine ((collapse_perm _ _ _ _).append_right run).trans ?_
    rw [itemsOf_cons, itemsOf_cons]

theorem finish_perm (fuel bar : Nat) (waiting : List (List α)) :
    (finish lt fuel bar waiting).Perm waiting.reverse.flatten := by
  induction fuel generalizing bar waiting with
  | zero => exact .refl _
  | succ fuel ih =>
    match waiting with
    | [] => exact .refl _
    | [run] => simp [finish]
    | [last, first] => simpa [finish] using mergeRuns_perm bar first last
    | last :: middle :: first :: rest =>
      have regroup : (last :: middle :: first :: rest).reverse.flatten =
          rest.reverse.flatten ++ (first ++ (middle ++ last)) := by simp
      rw [finish, regroup]
      have earlier : (mergeRuns lt bar first middle).1.Perm (first ++ middle) :=
        mergeRuns_perm bar first middle
      have later : (mergeRuns lt bar middle last).1.Perm (middle ++ last) :=
        mergeRuns_perm bar middle last
      generalize mergeRuns lt bar first middle = left at earlier ⊢
      generalize mergeRuns lt bar middle last = right at later ⊢
      split
      · refine (ih _ _).trans ?_
        simpa using (earlier.append_right last).append_left rest.reverse.flatten
      · refine (ih _ _).trans ?_
        simpa using (later.append_left first).append_left rest.reverse.flatten

theorem pushRuns_perm (length fuel bar start : Nat) (waiting : List (Pending α)) (items : List α) :
    (itemsOf (pushRuns lt length fuel bar start waiting items).1 ++
      (pushRuns lt length fuel bar start waiting items).2.1).Perm (itemsOf waiting ++ items) := by
  induction fuel generalizing bar start waiting items with
  | zero => exact .refl _
  | succ fuel ih =>
    cases items with
    | nil => exact .refl _
    | cons x xs =>
      unfold pushRuns
      dsimp only
      generalize leastRun length - (firstRun lt (x :: xs)).1.length = lacking
      have whole : ((firstRun lt (x :: xs)).1 ++ (firstRun lt (x :: xs)).2).Perm (x :: xs) :=
        firstRun_perm (x :: xs)
      generalize firstRun lt (x :: xs) = cut at whole ⊢
      obtain ⟨run, rest⟩ := cut
      refine (ih _ _ _ _).trans ?_
      refine ((push_perm _ _ _ _ _).append_right _).trans ?_
      rw [List.append_assoc]
      refine .append_left _ ?_
      calc (rest.take lacking).foldl (insert lt) run ++ rest.drop lacking
        _ |>.Perm (run ++ rest.take lacking ++ rest.drop lacking) :=
          (foldl_insert_perm _ _).append_right _
        _ = run ++ rest := by rw [List.append_assoc, List.take_append_drop]
        _ |>.Perm (x :: xs) := whole

theorem sort_perm (items : List α) : (sort lt items).Perm items := by
  have taken : (itemsOf (pushRuns lt items.length items.length longStretch 0 [] items).1 ++
      (pushRuns lt items.length items.length longStretch 0 [] items).2.1).Perm items :=
    pushRuns_perm _ _ _ _ _ _
  unfold sort
  refine .trans ?_ taken
  refine .append_right _ ((finish_perm _ _ _).trans (.of_eq ?_))
  rw [itemsOf, List.map_reverse]

end SqlConsole.Sorting
