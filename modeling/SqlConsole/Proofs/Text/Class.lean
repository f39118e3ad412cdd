import SqlConsole.Text.Blank
import SqlConsole.Text.Lowercase
import SqlConsole.Text.Word
import Mathlib.Data.List.TakeWhile

/-!
# Classes of code points

Blanks are apart from words and digits, and lower case neither changes them, nor looks across them,
nor turns anything else into them.
Below U+0080 this is checked character by character, beyond it on the tables of ranges (`apart`).
-/

namespace SqlConsole

namespace Text

/-- Whether no code point lies in a range of both lists. -/
def apart (as bs : List CodeRange) : Bool :=
  as.all fun a => bs.all fun b => a.2 < b.1 || b.2 < a.1

theorem not_inRanges_of_apart {as bs : List CodeRange} (h : apart as bs = true) {n : Nat}
    (inside : inRanges as n = true) : inRanges bs n = false := by
  simp only [apart, List.all_eq_true, Bool.or_eq_true, decide_eq_true_eq] at h
  simp only [inRanges, List.any_eq_true, Bool.and_eq_true, decide_eq_true_eq] at inside
  obtain ⟨a, memberA, low, high⟩ := inside
  simp only [inRanges, List.any_eq_false, Bool.and_eq_true, decide_eq_true_eq, not_and, not_le]
  intro b memberB
  have := h a memberA b memberB
  omega

def digitRanges : List CodeRange := zeros.map fun first => (first, first + 9)

def caseRanges : List CodeRange := caseRuns.map fun run => (run.first, run.last)

def smallRanges : List CodeRange :=
  caseRuns.map fun run => ((run.first + run.offset).toNat, (run.last + run.offset).toNat)

def visibleClasses : List (List CodeRange) :=
  [digitRanges, wordRanges, casedRanges, caseIgnorableRanges, caseRanges, smallRanges]

theorem blank_apart : visibleClasses.all (apart blankRanges) = true := by decide +kernel

theorem not_inRanges_of_blank {ranges : List CodeRange} (visible : ranges ∈ visibleClasses) {n : Nat}
    (blank : inRanges blankRanges n = true) : inRanges ranges n = false :=
  not_inRanges_of_apart (List.all_eq_true.mp blank_apart ranges visible) blank

end Text

namespace CodePoint

variable {c : CodePoint}

theorem forall_ascii {p : Char → Prop} [DecidablePred p] (h : ∀ n : Fin 128, p (Char.ofNat n))
    {ch : Char} (ascii : ch.toNat < 0x80) : p ch := by
  have found := h ⟨ch.toNat, ascii⟩
  rwa [Char.ofNat_toNat] at found

theorem isBlank_ascii {ch : Char} (ascii : ch.toNat < 0x80) :
    (isBlank ch = true → isWord ch = false ∧ lower ch = ch) ∧
      (isBlank ch = false → (lower ch).isBlank = false) :=
  forall_ascii (p := fun ch => (isBlank ch = true → isWord ch = false ∧ lower ch = ch) ∧
    (isBlank ch = false → (lower ch).isBlank = false)) (by decide +kernel) ascii

theorem inRanges_of_isDigit (digit : c.isDigit = true) :
    Text.inRanges Text.digitRanges c.code = true := by
  unfold isDigit digitValue? at digit
  rw [Option.isSome_map, List.find?_isSome] at digit
  obtain ⟨first, member, inside⟩ := digit
  simp only [Bool.and_eq_true, decide_eq_true_eq] at inside
  simp only [Text.inRanges, Text.digitRanges, List.any_map, List.any_eq_true]
  exact ⟨first, member, by simp; omega⟩

/-! ### Blanks are apart from all else -/

theorem isDigit_of_isBlank (blank : c.isBlank = true) : c.isDigit = false := by
  by_contra digit
  have outside : Text.inRanges Text.digitRanges c.code = false :=
    Text.not_inRanges_of_blank (by simp [Text.visibleClasses]) blank
  rw [inRanges_of_isDigit (by simpa using digit)] at outside
  exact Bool.noConfusion outside

theorem isWord_of_isBlank (blank : c.isBlank = true) : c.isWord = false := by
  cases c with
  | surrogate place =>
    have beyond : ¬(surrogate place).code < 0x80 := by simp only [code]; omega
    unfold isWord
    rw [if_neg beyond]
    exact Text.not_inRanges_of_blank (by simp [Text.visibleClasses]) blank
  | char ch =>
    by_cases ascii : ch.toNat < 0x80
    · exact ((isBlank_ascii ascii).1 blank).1
    · unfold isWord
      rw [if_neg (show ¬(char ch).code < 0x80 from ascii)]
      exact Text.not_inRanges_of_blank (by simp [Text.visibleClasses]) blank

theorem isBlank_of_isWord (word : c.isWord = true) : c.isBlank = false := by
  by_contra blank
  rw [isWord_of_isBlank (by simpa using blank)] at word
  exact Bool.noConfusion word

theorem isCased_of_isBlank (blank : c.isBlank = true) : c.isCased = false :=
  Text.not_inRanges_of_blank (by simp [Text.visibleClasses]) blank

theorem isCaseIgnorable_of_isBlank (blank : c.isBlank = true) : c.isCaseIgnorable = false :=
  Text.not_inRanges_of_blank (by simp [Text.visibleClasses]) blank

theorem lower_of_isBlank (blank : c.isBlank = true) : c.lower = c := by
  cases c with
  | surrogate place => rfl
  | char ch =>
    by_cases ascii : ch.toNat < 0x80
    · exact ((isBlank_ascii ascii).1 blank).2
    · have outside : Text.inRanges Text.caseRanges (char ch).code = false :=
        Text.not_inRanges_of_blank (by simp [Text.visibleClasses]) blank
      have absent : Text.caseRuns.find? (fun run => run.first ≤ ch.toNat && ch.toNat ≤ run.last &&
          (ch.toNat - run.first) % run.step == 0) = none := by
        rw [List.find?_eq_none]
        intro run member
        simp only [Text.inRanges, Text.caseRanges, List.any_map, List.any_eq_false] at outside
        have apart := outside run member
        simp only [Function.comp_apply, code, Bool.and_eq_true, not_and] at apart
        simp only [Bool.and_eq_true, not_and]
        intro ⟨low, high⟩
        exact absurd high (apart low)
      simp only [lower, ascii, if_false, absent]

theorem code_ofNat (n : Nat) : code (Char.ofNat n) = n ∨ code (Char.ofNat n) = 0 := by
  by_cases valid : n.isValidChar
  · exact .inl (by rw [Char.ofNat, dif_pos valid]; rfl)
  · exact .inr (by rw [Char.ofNat, dif_neg valid]; rfl)

theorem isBlank_lower (solid : c.isBlank = false) : c.lower.isBlank = false := by
  cases c with
  | surrogate place => exact solid
  | char ch =>
    by_cases ascii : ch.toNat < 0x80
    · exact (isBlank_ascii ascii).2 solid
    · simp only [lower, ascii, if_false]
      split
      · rename_i run found
        have inside := List.find?_some found
        simp only [Bool.and_eq_true, decide_eq_true_eq] at inside
        have small : Text.inRanges Text.smallRanges (ch.toNat + run.offset).toNat = true := by
          simp only [Text.inRanges, Text.smallRanges, List.any_map, List.any_eq_true]
          refine ⟨run, List.mem_of_find?_eq_some found, ?_⟩
          simp only [Function.comp_apply, Bool.and_eq_true, decide_eq_true_eq]
          omega
        unfold isBlank
        rcases code_ofNat (ch.toNat + run.offset).toNat with same | zero
        · rw [same]
          by_contra blank
          have outside : Text.inRanges Text.smallRanges (ch.toNat + run.offset).toNat = false :=
            Text.not_inRanges_of_blank (by simp [Text.visibleClasses]) (by simpa using blank)
          rw [small] at outside
          exact Bool.noConfusion outside
        · rw [zero]
          decide
      · exact solid

end CodePoint

end SqlConsole
