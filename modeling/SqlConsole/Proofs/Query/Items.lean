import SqlConsole.Proofs.Query.Layout

/-!
# Items of a list

A list of tokens falls into items at its commas outside parentheses (`Items`), and cutting it token
by token finds exactly these (`cutItems_eq_ok_iff`).
-/

namespace SqlConsole

open Token (EachOutside)

def CommaFree (depth : Int) (tokens : List Token) : Prop :=
  EachOutside depth (·.kind ≠ .comma) tokens

/-- How tokens fall into items, none of them empty: commas outside parentheses stand between them
and nowhere else. -/
inductive Items : List Token → List (List Token) → Prop
  | last {item : List Token} (present : item ≠ []) (free : CommaFree 0 item) : Items item [item]
  | next {item rest : List Token} {comma : Token} {items : List (List Token)} (present : item ≠ [])
      (free : CommaFree 0 item) (outside : Token.depth item = 0) (separates : comma.kind = .comma)
      (others : Items rest items) : Items (item ++ comma :: rest) (item :: items)

variable {follow : Token} {tokens : List Token} {items : List (List Token)}

theorem Items.present (split : Items tokens items) : ∀ item ∈ items, item ≠ [] := by
  induction split with
  | last present => simpa using present
  | next present _ _ _ _ ih =>
    intro item member
    rcases List.mem_cons.mp member with rfl | member
    · exact present
    · exact ih item member

theorem Items.ne_nil (split : Items tokens items) : tokens ≠ [] := by
  cases split with
  | last present => exact present
  | next => simp

theorem cutItemsFrom_free {d : Int} {item : List Token} (free : CommaFree d item)
    (follow : Token) (acc rest : List Token) :
    cutItemsFrom follow d acc (item ++ rest) =
      cutItemsFrom follow (d + Token.depth item) (acc ++ item) rest := by
  induction item generalizing d acc with
  | nil => simp
  | cons t item ih =>
    obtain ⟨plain, free⟩ := Token.eachOutside_cons.mp free
    have inside : ¬(t.kind = .comma ∧ d = 0) := fun h => plain h.2 h.1
    rw [List.cons_append, cutItemsFrom, if_neg inside, ih free, Token.depth_cons, Int.add_assoc,
      List.append_assoc]
    rfl

theorem cutItems_of_items (split : Items tokens items) : cutItems follow tokens = .ok items := by
  unfold cutItems
  induction split with
  | @last item present free =>
    have cut := cutItemsFrom_free free follow [] []
    rw [List.append_nil] at cut
    rw [cut, List.nil_append, cutItemsFrom, if_neg present]
  | @next item rest comma items present free outside separates others ih =>
    rw [cutItemsFrom_free free, outside, List.nil_append, cutItemsFrom, if_pos ⟨separates, rfl⟩,
      if_neg present, ih]
    rfl

-- The loop carries the current item and its depth; both are those of `acc` all along.
theorem items_of_cutItemsFrom (acc : List Token) (free : CommaFree 0 acc)
    (cut : cutItemsFrom follow (Token.depth acc) acc tokens = .ok items) :
    Items (acc ++ tokens) items := by
  induction tokens generalizing acc items with
  | nil =>
    rw [cutItemsFrom] at cut
    split at cut
    · cases cut
    · rename_i present
      cases cut
      rw [List.append_nil]
      exact .last present free
  | cons t tokens ih =>
    rw [cutItemsFrom] at cut
    split at cut
    · rename_i separates
      split at cut
      · cases cut
      · rename_i present
        rw [bind_ok_iff] at cut
        obtain ⟨others, found, result⟩ := cut
        cases result
        exact .next present free separates.2 separates.1 (ih [] Token.eachOutside_nil found)
    · rename_i inside
      have longer : CommaFree 0 (acc ++ [t]) := by
        rw [CommaFree, Token.eachOutside_append, Token.eachOutside_cons]
        refine ⟨free, fun outside comma => inside ⟨comma, by omega⟩, Token.eachOutside_nil⟩
      have deeper : Token.depth acc + t.depthChange = Token.depth (acc ++ [t]) := by
        simp [Token.depth_append, Token.depth_cons]
      rw [deeper] at cut
      simpa using ih _ longer cut

theorem cutItems_eq_ok_iff : cutItems follow tokens = .ok items ↔ Items tokens items :=
  ⟨fun cut => items_of_cutItemsFrom [] Token.eachOutside_nil cut, cutItems_of_items⟩

end SqlConsole
