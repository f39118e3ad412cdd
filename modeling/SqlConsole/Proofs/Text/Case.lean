import Mathlib.Algebra.Ring.Nat
import SqlConsole.Text.Fold
import SqlConsole.Proofs.Text.Class

/-!
# Lower case of joined texts

The lower case of a letter depends on its neighbours up to the next blank only
(`lower_append_blank`), and in ASCII it does not depend on them at all (`lower_ascii`).
-/

namespace SqlConsole.Text

variable {x : Text}

theorem meetsCased_append_blank (a : Text) (blank : ∀ c ∈ x.head?, c.isBlank = true) :
    meetsCased (a ++ x) = meetsCased a := by
  unfold meetsCased
  rw [List.dropWhile_append]
  split
  · rename_i empty
    rw [List.isEmpty_iff.mp empty]
    cases x with
    | nil => rfl
    | cons c cs =>
      have edge := blank c rfl
      simp [CodePoint.isCaseIgnorable_of_isBlank edge, CodePoint.isCased_of_isBlank edge]
  · rename_i visible
    obtain ⟨d, ds, found⟩ := List.exists_cons_of_ne_nil (mt List.isEmpty_iff.mpr visible)
    rw [found]
    rfl

theorem lowerBetween_append_blank (before : Text) (c : CodePoint) (after : Text)
    (blank : ∀ c ∈ x.head?, c.isBlank = true) :
    lowerBetween before c (after ++ x) = lowerBetween before c after := by
  unfold lowerBetween
  rw [meetsCased_append_blank after blank]

theorem lowerFrom_append_blank (before t : Text) (blank : ∀ c ∈ x.head?, c.isBlank = true) :
    lowerFrom before (t ++ x) = lowerFrom before t ++ lowerFrom (t.reverse ++ before) x := by
  induction t generalizing before with
  | nil => rfl
  | cons c cs ih =>
    rw [List.cons_append, lowerFrom, lowerFrom, lowerBetween_append_blank _ _ _ blank, ih]
    simp

theorem lowerBetween_of_isBlank {c : CodePoint} (blank : c.isBlank = true) (before after : Text) :
    lowerBetween before c after = [c] := by
  have dotted : c ≠ '\u0130' := by rintro rfl; exact absurd blank (by decide)
  have sigma : c ≠ '\u03a3' := by rintro rfl; exact absurd blank (by decide)
  rw [lowerBetween, if_neg dotted, if_neg sigma, CodePoint.lower_of_isBlank blank]

theorem lowerFrom_after_blank {c : CodePoint} (blank : c.isBlank = true) (before earlier t : Text) :
    lowerFrom (before ++ c :: earlier) t = lowerFrom before t := by
  induction t generalizing before with
  | nil => rfl
  | cons d ds ih =>
    have edge : ∀ e ∈ (c :: earlier).head?, e.isBlank = true := by simpa using blank
    rw [lowerFrom, lowerFrom, lowerBetween, lowerBetween, meetsCased_append_blank _ edge,
      ← List.cons_append, ih]

theorem lower_append_blank {c : CodePoint} (blank : c.isBlank = true) (t rest : Text) :
    lower (t ++ c :: rest) = lower t ++ c :: lower rest := by
  have behind := lowerFrom_after_blank blank [] t.reverse rest
  unfold lower
  rw [lowerFrom_append_blank [] t (by simpa using blank), lowerFrom, lowerBetween_of_isBlank blank,
    List.append_nil]
  exact congrArg (fun after => lowerFrom [] t ++ c :: after) behind

theorem lowerBetween_ne_nil (before : Text) (c : CodePoint) (after : Text) :
    lowerBetween before c after ≠ [] := by
  unfold lowerBetween
  split
  · exact List.cons_ne_nil _ _
  split
  · split <;> exact List.cons_ne_nil _ _
  · exact List.cons_ne_nil _ _

theorem solid_of_mem_lowerBetween {before after : Text} {c d : CodePoint}
    (solid : c.isBlank = false) (member : d ∈ lowerBetween before c after) :
    d.isBlank = false := by
  unfold lowerBetween at member
  split at member
  · rcases List.mem_cons.mp member with rfl | member
    · decide
    · obtain rfl := List.mem_singleton.mp member
      decide
  split at member
  · split at member
    · obtain rfl := List.mem_singleton.mp member
      decide
    · obtain rfl := List.mem_singleton.mp member
      decide
  · obtain rfl := List.mem_singleton.mp member
    exact CodePoint.isBlank_lower solid

theorem eq_of_mem_lowerBetween {before after : Text} {c d : CodePoint} (blank : d.isBlank = true)
    (member : d ∈ lowerBetween before c after) : c = d := by
  by_cases same : c.isBlank = true
  · rw [lowerBetween_of_isBlank same] at member
    exact (List.mem_singleton.mp member).symm
  · rw [solid_of_mem_lowerBetween (by simpa using same) member] at blank
    cases blank

theorem getLast?_of_lowerFrom {before t : Text} {d : CodePoint} (blank : d.isBlank = true)
    (last : (lowerFrom before t).getLast? = some d) : t.getLast? = some d := by
  induction t generalizing before with
  | nil => cases last
  | cons c cs ih =>
    rw [lowerFrom, List.getLast?_append, Option.or_eq_some_iff] at last
    rcases last with last | ⟨empty, last⟩
    · rw [List.getLast?_cons, ih last]
      rfl
    · cases cs with
      | nil =>
        obtain rfl := eq_of_mem_lowerBetween blank (List.mem_of_getLast? last)
        rfl
      | cons e cs =>
        rw [List.getLast?_eq_none_iff, lowerFrom, List.append_eq_nil_iff] at empty
        exact absurd empty.1 (lowerBetween_ne_nil _ _ _)

theorem leadingName_append {y : Text} (t : Text) (edge : ∀ c ∈ y.head?, c.isWord = false) :
    leadingName (t ++ y) = leadingName t := by
  cases t with
  | nil =>
    cases y with
    | nil => rfl
    | cons c cs => simp [leadingName, CodePoint.isWordStart, edge c rfl]
  | cons c cs =>
    have stop : y.takeWhile CodePoint.isWord = [] := by
      cases y with
      | nil => rfl
      | cons d ds => simp [edge d rfl]
    simp only [List.cons_append, leadingName, List.takeWhile_append, stop]
    split
    · split
      · rename_i whole
        rw [List.append_nil, List.IsPrefix.eq_of_length (List.takeWhile_prefix _) whole]
      · rfl
    · rfl

theorem leadingName_lower_append_blank (t : Text) (blank : ∀ c ∈ x.head?, c.isBlank = true) :
    leadingName (lower (t ++ x)) = leadingName (lower t) := by
  unfold lower
  rw [lowerFrom_append_blank [] t blank, leadingName_append]
  cases x with
  | nil => simp [lowerFrom]
  | cons c cs =>
    have edge := blank c rfl
    intro d head
    rw [lowerFrom, lowerBetween_of_isBlank edge] at head
    obtain rfl : c = d := by simpa using head
    exact CodePoint.isWord_of_isBlank edge

/-! ### Length -/

def lowerLength (c : CodePoint) : Nat := if c = '\u0130' then 2 else 1

theorem length_lowerFrom (before t : Text) :
    (lowerFrom before t).length = (t.map lowerLength).sum := by
  induction t generalizing before with
  | nil => rfl
  | cons c cs ih =>
    rw [lowerFrom, List.length_append, ih, List.map_cons, List.sum_cons]
    congr 1
    unfold lowerBetween lowerLength
    split
    · rfl
    · split
      · split <;> rfl
      · rfl

/-! ### ASCII -/

theorem lowerBetween_ascii {ch : Char} (ascii : ch.toNat < 0x80) (before after : Text) :
    lowerBetween before ch after = [.char ch.toLower] := by
  have dotted : ch ≠ '\u0130' := by rintro rfl; exact absurd ascii (by decide)
  have sigma : ch ≠ '\u03a3' := by rintro rfl; exact absurd ascii (by decide)
  rw [lowerBetween, if_neg (by simpa using dotted), if_neg (by simpa using sigma)]
  simp [CodePoint.lower, ascii]

theorem lower_ascii {s : List Char} (ascii : ∀ ch ∈ s, ch.toNat < 0x80) :
    lower (s.map .char) = (s.map Char.toLower).map .char := by
  have run : ∀ before, lowerFrom before (s.map .char) = (s.map Char.toLower).map .char := by
    induction s with
    | nil => intro before; rfl
    | cons ch s ih =>
      intro before
      have rest := ih fun ch member => ascii ch (List.mem_cons_of_mem _ member)
      rw [List.map_cons, lowerFrom, lowerBetween_ascii (ascii ch List.mem_cons_self), rest]
      rfl
  exact run []

theorem lowerBetween_of_sameLetter {c : CodePoint} {letter : Char}
    (plain : foldPairs.all fun pair => Char.ofNat pair.2 != letter)
    (undotted : letter ≠ 'i') (unlike : letter ≠ 'σ') (same : c.fold = letter)
    (before after : Text) : lowerBetween before c after = [.char letter] := by
  have lower : c.lower = letter := by
    unfold CodePoint.fold at same
    cases found : foldPairs.lookup c.lower.code with
    | none => simpa only [found] using same
    | some representative =>
      rw [found] at same
      obtain ⟨l₁, l₂, pairs, -⟩ := List.lookup_eq_some_iff.mp found
      have member : (c.lower.code, representative) ∈ foldPairs := by simp [pairs]
      have other := List.all_eq_true.mp plain _ member
      simp_all
  have dotted : c ≠ '\u0130' := by
    rintro rfl
    exact undotted (CodePoint.char.inj (lower.symm.trans (by decide)))
  have sigma : c ≠ '\u03a3' := by
    rintro rfl
    exact unlike (CodePoint.char.inj (lower.symm.trans (by decide)))
  rw [lowerBetween, if_neg dotted, if_neg sigma, lower]

end SqlConsole.Text
