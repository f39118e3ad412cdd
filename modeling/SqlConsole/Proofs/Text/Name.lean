import SqlConsole.Proofs.Text.Case

/-!
# Names in lower case

Lower case turns nothing else into a word character (`CodePoint.isWord_lower`), and a word whose
lower case is in ASCII has it whatever follows (`lower_append_of_ascii`). So a text that starts with
such a word starts with its lower case as a name (`leadingName_lower`).
-/

namespace SqlConsole

namespace Text

/-- Whether one range of words holds the code points from the first number to the second. -/
def inOneWordRange (first last : Nat) : Bool :=
  wordRanges.any fun range => Nat.ble range.1 first && Nat.ble last range.2

/-- Whether the numbers from the first to the second are beyond ASCII and in no range of words. -/
def inNoWordRange (first last : Nat) : Bool :=
  Nat.ble 0x80 first && wordRanges.all fun range => Nat.blt range.2 first || Nat.blt last range.1

def CaseRun.keepsWords (run : CaseRun) : Bool :=
  inOneWordRange run.first run.last ||
    inNoWordRange (run.first + run.offset).toNat (run.last + run.offset).toNat ||
    (List.range ((run.last - run.first) / run.step + 1)).all fun i =>
      inOneWordRange (run.first + run.step * i) (run.first + run.step * i)

theorem caseRuns_keepWords : caseRuns.all CaseRun.keepsWords = true := by decide +kernel

theorem inRanges_of_inOneWordRange {first last n : Nat} (one : inOneWordRange first last = true)
    (low : first ≤ n) (high : n ≤ last) : inRanges wordRanges n = true := by
  simp only [inOneWordRange, List.any_eq_true, Bool.and_eq_true, Nat.ble_eq] at one
  obtain ⟨range, member, below, above⟩ := one
  simp only [inRanges, List.any_eq_true, Bool.and_eq_true, decide_eq_true_eq]
  exact ⟨range, member, below.trans low, high.trans above⟩

theorem not_inRanges_of_inNoWordRange {first last n : Nat} (none : inNoWordRange first last = true)
    (low : first ≤ n) (high : n ≤ last) : 0x80 ≤ n ∧ inRanges wordRanges n = false := by
  simp only [inNoWordRange, Bool.and_eq_true, Nat.ble_eq, List.all_eq_true, Bool.or_eq_true,
    Nat.blt_eq] at none
  refine ⟨none.1.trans low, ?_⟩
  simp only [inRanges, List.any_eq_false, Bool.and_eq_true, decide_eq_true_eq]
  intro range member
  have apart := none.2 range member
  omega

theorem CaseRun.isWord_or_not {run : CaseRun} (keeps : run.keepsWords = true) {n : Nat}
    (low : run.first ≤ n) (high : n ≤ run.last) (even : (n - run.first) % run.step = 0) :
    inRanges wordRanges n = true ∨
      0x80 ≤ (n + run.offset).toNat ∧ inRanges wordRanges (n + run.offset).toNat = false := by
  simp only [keepsWords, Bool.or_eq_true, List.all_eq_true, List.mem_range] at keeps
  rcases keeps with (one | none) | each
  · exact .inl (inRanges_of_inOneWordRange one low high)
  · exact .inr (not_inRanges_of_inNoWordRange none (by omega) (by omega))
  · have place : run.first + run.step * ((n - run.first) / run.step) = n := by
      have parts := Nat.div_add_mod (n - run.first) run.step
      omega
    have word := each ((n - run.first) / run.step)
      (Nat.lt_succ_of_le (Nat.div_le_div_right (by omega)))
    rw [place] at word
    exact .inl (inRanges_of_inOneWordRange word le_rfl le_rfl)

end Text

namespace CodePoint

variable {c : CodePoint}

theorem isWord_lower_ascii {ch : Char} (ascii : ch.toNat < 0x80) (other : isWord ch = false) :
    (lower ch).isWord = false :=
  forall_ascii (p := fun ch => isWord ch = false → (lower ch).isWord = false) (by decide +kernel)
    ascii other

theorem isWord_ofNat {n : Nat} (beyond : 0x80 ≤ n)
    (outside : Text.inRanges Text.wordRanges n = false) : isWord (Char.ofNat n) = false := by
  rcases code_ofNat n with same | zero
  · rw [isWord, same, if_neg (by omega), outside]
  · have null : Char.ofNat n = Char.ofNat 0 := by
      rw [← Char.ofNat_toNat (Char.ofNat n)]
      exact congrArg Char.ofNat zero
    rw [null]
    decide

theorem isWord_lower (other : c.isWord = false) : c.lower.isWord = false := by
  cases c with
  | surrogate place => exact other
  | char ch =>
    by_cases ascii : ch.toNat < 0x80
    · exact isWord_lower_ascii ascii other
    have outside : Text.inRanges Text.wordRanges ch.toNat = false := by
      simpa only [isWord, code, ascii, if_false] using other
    simp only [lower, ascii, if_false]
    split
    · -- The letter is in one of the runs, and all runs are checked.
      rename_i run found
      have inside := List.find?_some found
      simp only [Bool.and_eq_true, decide_eq_true_eq, beq_iff_eq] at inside
      obtain ⟨⟨low, high⟩, even⟩ := inside
      have keeps := List.all_eq_true.mp Text.caseRuns_keepWords run
        (List.mem_of_find?_eq_some found)
      rcases Text.CaseRun.isWord_or_not keeps low high even with word | ⟨beyond, free⟩
      · cases outside.symm.trans word
      · exact isWord_ofNat beyond free
    · exact other

end CodePoint

namespace Text

theorem lowerFrom_plain {w : Text} (plain : ∀ c ∈ w, c ≠ '\u0130' ∧ c ≠ '\u03a3')
    (before rest : Text) :
    lowerFrom before (w ++ rest) =
      w.map CodePoint.lower ++ lowerFrom (w.reverse ++ before) rest := by
  induction w generalizing before with
  | nil => rfl
  | cons c cs ih =>
    obtain ⟨⟨dotless, unlike⟩, others⟩ := List.forall_mem_cons.mp plain
    rw [List.cons_append, lowerFrom, lowerBetween, if_neg dotless, if_neg unlike, ih others]
    simp

theorem plain_of_ascii {w : Text} {before : Text}
    (ascii : ∀ c ∈ lowerFrom before w, c.code < 0x80) : ∀ c ∈ w, c ≠ '\u0130' ∧ c ≠ '\u03a3' := by
  induction w generalizing before with
  | nil => simp
  | cons c cs ih =>
    rw [lowerFrom, List.forall_mem_append] at ascii
    refine List.forall_mem_cons.mpr ⟨⟨?_, ?_⟩, ih ascii.2⟩
    · rintro rfl
      exact absurd (ascii.1 '\u0307' (by simp [lowerBetween])) (by decide)
    · rintro rfl
      have sigma := ascii.1
      rw [lowerBetween, if_neg (by decide), if_pos rfl] at sigma
      split at sigma
      · exact absurd (sigma '\u03c2' (by simp)) (by decide)
      · exact absurd (sigma '\u03c3' (by simp)) (by decide)

theorem lower_append_of_ascii {w : Text} (ascii : ∀ c ∈ w.lower, c.code < 0x80) (rest : Text) :
    lower (w ++ rest) = w.lower ++ lowerFrom w.reverse rest := by
  have plain := plain_of_ascii ascii
  have alone := lowerFrom_plain plain [] []
  rw [List.append_nil, lowerFrom, List.append_nil] at alone
  rw [lower, lower, lowerFrom_plain plain, alone, List.append_nil]

theorem head?_lowerFrom_edge {rest : Text} (edge : ∀ c ∈ rest.head?, c.isWord = false)
    (before : Text) : ∀ c ∈ (lowerFrom before rest).head?, c.isWord = false := by
  cases rest with
  | nil => simp [lowerFrom]
  | cons d ds =>
    have other : d.isWord = false := edge d rfl
    have dotless : d ≠ '\u0130' := by rintro rfl; exact absurd other (by decide +kernel)
    have unlike : d ≠ '\u03a3' := by rintro rfl; exact absurd other (by decide +kernel)
    rw [lowerFrom, lowerBetween, if_neg dotless, if_neg unlike]
    rintro c ⟨⟩
    exact CodePoint.isWord_lower other

/-- The name at the front of a text in lower case, if the lower case of what is there is a name in
ASCII. -/
theorem leadingName_lower {w rest : Text} (ascii : ∀ c ∈ w.lower, c.code < 0x80)
    (name : w.lower.leadingName = w.lower) (edge : ∀ c ∈ rest.head?, c.isWord = false) :
    leadingName (lower (w ++ rest)) = w.lower := by
  rw [lower_append_of_ascii ascii, leadingName_append _ (head?_lowerFrom_edge edge _), name]

end Text

end SqlConsole
