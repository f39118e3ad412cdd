import SqlConsole.Text.Blank
import Mathlib.Data.List.TakeWhile

/-!
# Trimmed texts

A text is its trimmed form between two runs of blanks (`exists_framed`), and the only one without
blanks at its ends (`trim_framed`). The trimmed form starts and ends with the first and the last
code point that is not blank, so its ends are known for joined texts too.
-/

namespace SqlConsole.Text

def AllBlank (t : Text) : Prop := ∀ c ∈ t, c.isBlank = true

/-- Whether a text neither starts nor ends with a blank. -/
def IsTrimmed (t : Text) : Prop :=
  (∀ c ∈ t.head?, c.isBlank = false) ∧ ∀ c ∈ t.getLast?, c.isBlank = false

theorem AllBlank.append {a b : Text} (ha : a.AllBlank) (hb : b.AllBlank) : (a ++ b).AllBlank := by
  intro c member
  rcases List.mem_append.mp member with left | right
  · exact ha c left
  · exact hb c right

theorem AllBlank.reverse {a : Text} (ha : a.AllBlank) : AllBlank a.reverse :=
  fun c member => ha c (List.mem_reverse.mp member)

theorem find?_of_allBlank {a : Text} (ha : a.AllBlank) : a.find? (!·.isBlank) = none := by
  rw [List.find?_eq_none]
  intro c member
  simp [ha c member]

/-! ### Both sides -/

theorem trimLeft_append {b : Text} (blank : b.AllBlank) (t : Text) :
    trimLeft (b ++ t) = trimLeft t :=
  List.dropWhile_append_of_pos blank

theorem trimRight_append {b : Text} (blank : b.AllBlank) (t : Text) :
    trimRight (t ++ b) = trimRight t := by
  unfold trimRight
  rw [List.reverse_append, trimLeft_append blank.reverse]

theorem trimLeft_eq_self {t : Text} (solid : ∀ c ∈ t.head?, c.isBlank = false) :
    trimLeft t = t := by
  cases t with
  | nil => rfl
  | cons c cs => simp [trimLeft, solid c rfl]

theorem trimLeft_append_solid {c : CodePoint} {rest : Text} (t : Text) (solid : c.isBlank = false) :
    trimLeft (t ++ c :: rest) = trimLeft t ++ c :: rest := by
  unfold trimLeft
  rw [List.dropWhile_append]
  split
  · rename_i empty
    rw [List.isEmpty_iff.mp empty]
    simp [solid]
  · rfl

theorem trimRight_eq_self {t : Text} (solid : ∀ c ∈ t.getLast?, c.isBlank = false) :
    trimRight t = t := by
  unfold trimRight
  rw [trimLeft_eq_self (by simpa using solid), List.reverse_reverse]

theorem exists_trimLeft (t : Text) : ∃ b : Text, b.AllBlank ∧ t = b ++ trimLeft t :=
  ⟨t.takeWhile CodePoint.isBlank, fun _ member => List.mem_takeWhile_imp member,
    List.takeWhile_append_dropWhile.symm⟩

theorem exists_trimRight (t : Text) : ∃ b : Text, b.AllBlank ∧ t = trimRight t ++ b := by
  obtain ⟨b, blank, same⟩ := exists_trimLeft t.reverse
  refine ⟨b.reverse, blank.reverse, ?_⟩
  rw [trimRight, ← List.reverse_append, ← same, List.reverse_reverse]

theorem exists_framed (t : Text) :
    ∃ b e : Text, b.AllBlank ∧ e.AllBlank ∧ t = b ++ (t.trim ++ e) := by
  obtain ⟨b, before, left⟩ := exists_trimLeft t
  obtain ⟨e, after, right⟩ := exists_trimRight (trimLeft t)
  exact ⟨b, e, before, after, by rw [trim, ← right, ← left]⟩

theorem trim_framed {b u e : Text} (before : b.AllBlank) (trimmed : u.IsTrimmed)
    (after : e.AllBlank) : trim (b ++ (u ++ e)) = u := by
  rw [trim, trimLeft_append before]
  cases u with
  | nil =>
    have empty : trimLeft e = [] := by rw [← List.append_nil e, trimLeft_append after]; rfl
    rw [List.nil_append, empty]
    rfl
  | cons c cs =>
    rw [trimLeft_eq_self (by simpa using trimmed.1), trimRight_append after,
      trimRight_eq_self trimmed.2]

theorem trim_eq_self {t : Text} (trimmed : t.IsTrimmed) : t.trim = t := by
  simpa using trim_framed (b := []) (e := []) (by simp [AllBlank]) trimmed (by simp [AllBlank])

/-! ### The ends of the trimmed form -/

theorem head?_trimLeft (t : Text) : (trimLeft t).head? = t.find? (!·.isBlank) :=
  (List.find?_not_eq_head?_dropWhile ..).symm

theorem getLast?_trimRight (t : Text) :
    (trimRight t).getLast? = t.reverse.find? (!·.isBlank) := by
  rw [trimRight, List.getLast?_reverse, head?_trimLeft]

theorem getLast?_trim (t : Text) : t.trim.getLast? = t.reverse.find? (!·.isBlank) := by
  obtain ⟨b, blank, same⟩ := exists_trimLeft t
  have reversed : t.reverse = (trimLeft t).reverse ++ b.reverse := by
    rw [← List.reverse_append, ← same]
  rw [trim, getLast?_trimRight, reversed, List.find?_append, find?_of_allBlank blank.reverse,
    Option.or_none]

theorem trimRight_joined (u v : Text) :
    trimRight (u ++ v) = if trimRight v = [] then trimRight u else u ++ trimRight v := by
  unfold trimRight trimLeft
  rw [List.reverse_append, List.dropWhile_append]
  simp only [List.isEmpty_iff, List.reverse_eq_nil_iff]
  split
  · rfl
  · rw [List.reverse_append, List.reverse_reverse]

theorem head?_trim (t : Text) : t.trim.head? = t.find? (!·.isBlank) := by
  rw [← head?_trimLeft, trim]
  cases found : trimLeft t with
  | nil => rfl
  | cons c cs =>
    have solid : c.isBlank = false := by
      have head := head?_trimLeft t
      rw [found, List.head?_cons] at head
      simpa using List.find?_some head.symm
    have single : trimRight [c] = [c] := trimRight_eq_self (by simpa using solid)
    rw [← List.singleton_append, trimRight_joined, single]
    split <;> rfl

theorem trim_isTrimmed (t : Text) : t.trim.IsTrimmed := by
  constructor
  · intro c head
    rw [head?_trim] at head
    simpa using List.find?_some head
  · intro c last
    rw [getLast?_trim] at last
    simpa using List.find?_some last

theorem solid_of_trim {t u rest : Text} (whole : t.trim = u ++ rest) :
    ∀ c ∈ u.head?, c.isBlank = false := by
  intro c head
  refine t.trim_isTrimmed.1 c ?_
  rw [whole, List.head?_append, Option.mem_def.mp head]
  rfl

theorem trim_append_allBlank {b : Text} (blank : b.AllBlank) (t : Text) :
    trim (t ++ b) = t.trim := by
  obtain ⟨a, e, before, after, same⟩ := exists_framed t
  have framed := trim_framed before t.trim_isTrimmed (after.append blank)
  rwa [← List.append_assoc, ← List.append_assoc, List.append_assoc a, ← same] at framed

theorem head?_trim_append (u v : Text) : (u ++ v).trim.head? = u.trim.head?.or v.trim.head? := by
  simp only [head?_trim, List.find?_append]

theorem getLast?_trim_append (u v : Text) :
    (u ++ v).trim.getLast? = v.trim.getLast?.or u.trim.getLast? := by
  simp only [getLast?_trim, List.reverse_append, List.find?_append]

/-- What follows a text after a blank does not change its trimmed form, which only goes on with a
blank. -/
theorem trim_append_blank {t x : Text} (solid : t.trim ≠ [])
    (blank : ∀ c ∈ x.head?, c.isBlank = true) :
    ∃ y : Text, (t ++ x).trim = t.trim ++ y ∧ ∀ c ∈ y.head?, c.isBlank = true := by
  obtain ⟨b, e, before, after, same⟩ := exists_framed t
  have trimmed := trim_isTrimmed t
  have joined : (t ++ x).trim = trimRight (t.trim ++ (e ++ x)) := by
    have whole : t ++ x = b ++ (t.trim ++ (e ++ x)) := by
      conv => lhs; rw [same]
      simp
    obtain ⟨c, cs, found⟩ := List.exists_cons_of_ne_nil solid
    rw [whole, trim, trimLeft_append before, trimLeft_eq_self]
    simpa [found] using trimmed.1
  rw [joined, trimRight_joined]
  split
  · exact ⟨[], by rw [trimRight_eq_self trimmed.2, List.append_nil], by simp⟩
  · rename_i visible
    refine ⟨trimRight (e ++ x), rfl, ?_⟩
    obtain ⟨b', -, kept⟩ := exists_trimRight (e ++ x)
    obtain ⟨d, ds, cut⟩ := List.exists_cons_of_ne_nil visible
    rw [cut] at kept ⊢
    intro c head
    obtain rfl : d = c := by simpa using head
    cases e with
    | nil => exact blank d (by simp only [List.nil_append] at kept; rw [kept]; rfl)
    | cons f fs =>
      obtain rfl : f = d := (List.cons.inj kept).1
      exact after f List.mem_cons_self

end SqlConsole.Text
