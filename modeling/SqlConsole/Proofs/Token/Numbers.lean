import SqlConsole.Number.Numeral
import SqlConsole.Proofs.Token.Spelling

/-!
# Numbers among the tokens

The value of a token that is an integer is a run of digits (`digits_of_scan`), and that of a decimal
one is a numeral of a number (`read?_of_scan`).
-/

namespace SqlConsole

/-! ### Numerals with a point -/

theorem Binary64.ofMagnitude_ne_nan (negative : Bool) (q : Rat) (object : Nat) :
    ofMagnitude negative q ≠ .nan object := by
  unfold ofMagnitude
  intro same
  split at same
  · cases same
  · dsimp only at same
    split at same <;> split at same <;> cases same

namespace Numeral

theorem digitRun_append {digits rest : Text} (each : ∀ c ∈ digits, c.isDigit = true)
    (edge : ∀ c ∈ rest.head?, c.isDigit = false ∧ c ≠ '_') :
    digitRun (digits ++ rest) = (digits, rest) := by
  induction digits with
  | nil =>
    cases rest with
    | nil => rfl
    | cons c cs =>
      have plain : ¬c.isDigit = true := by simp [(edge c rfl).1]
      rw [List.nil_append, digitRun.eq_def]
      exact if_neg plain
  | cons c digits ih =>
    obtain ⟨digit, others⟩ := List.forall_mem_cons.mp each
    have run := ih others
    rw [List.cons_append, digitRun.eq_def]
    dsimp only
    rw [if_pos digit]
    cases joined : digits ++ rest with
    | nil =>
      rw [joined] at run
      cases run
      rfl
    | cons d ds =>
      have plain : d ≠ '_' := by
        cases digits with
        | nil => exact (edge d (by rw [← List.nil_append rest, joined]; rfl)).2
        | cons e digits =>
          obtain rfl : e = d := (List.cons.inj joined).1
          rintro rfl
          exact absurd (others _ List.mem_cons_self) (by decide)
      have lone : ¬(d = '_' ∧ ds.head?.any CodePoint.isDigit = true) := fun score => plain score.1
      rw [joined] at run
      simp only [if_neg lone, run]

theorem isMargin_of_isDigit {c : CodePoint} (digit : c.isDigit = true) : isMargin c = false := by
  simp [isMargin, Token.isBlank_of_isDigit digit]

theorem smallLetter_of_isDigit {c : CodePoint} (digit : c.isDigit = true) :
    smallLetter c ≠ 'i' ∧ smallLetter c ≠ 'n' := by
  have letters : ∀ n : Fin 128, (CodePoint.char (Char.ofNat n)).isDigit = true →
      (Char.ofNat n).toLower ≠ 'i' ∧ (Char.ofNat n).toLower ≠ 'n' := by decide
  cases c with
  | surrogate place => simp [smallLetter]
  | char ch =>
    by_cases ascii : ch.toNat < 0x80
    · have found := CodePoint.forall_ascii (p := fun ch => (CodePoint.char ch).isDigit = true →
        ch.toLower ≠ 'i' ∧ ch.toLower ≠ 'n') letters ascii digit
      simpa [smallLetter] using found
    · have beyond : ∀ small : Char, small.toNat < 0x80 → ch.toLower ≠ small := by
        rintro _ low rfl
        exact ascii (Keyword.ascii_of_toLower low)
      simp [smallLetter, beyond 'i' (by decide), beyond 'n' (by decide)]

theorem withoutMargins_eq_self {t : Text} (first : ∀ c ∈ t.head?, isMargin c = false)
    (last : ∀ c ∈ t.getLast?, isMargin c = false) : withoutMargins t = t := by
  have solid : ∀ u : Text, (∀ c ∈ u.head?, isMargin c = false) → u.dropWhile isMargin = u := by
    intro u edge
    cases u with
    | nil => rfl
    | cons c u => simp [edge c rfl]
  unfold withoutMargins
  rw [solid t first, solid _ (by simpa using last), List.reverse_reverse]

theorem read?_of_digits {whole part : Text} (digits : ∀ c ∈ whole, c.isDigit = true)
    (present : whole ≠ []) (decimals : ∀ c ∈ part, c.isDigit = true) (given : part ≠ []) :
    read? (whole ++ .char '.' :: part) =
      some (ofDecimal false (Text.natural (whole ++ part)) (0 - part.length)) := by
  obtain ⟨c, whole, rfl⟩ := List.exists_cons_of_ne_nil present
  have digit := digits c List.mem_cons_self
  have bare :
      withoutMargins (c :: whole ++ .char '.' :: part) = c :: whole ++ .char '.' :: part := by
    apply withoutMargins_eq_self
    · rintro d ⟨⟩
      exact isMargin_of_isDigit digit
    · intro d last
      have same : part.getLast? = some d := by
        simpa [List.getLast?_append, List.getLast?_cons, List.getLast?_eq_some_getLast given]
          using last
      exact isMargin_of_isDigit (decimals d (List.mem_of_getLast? same))
  have unsigned : sign (c :: whole ++ .char '.' :: part) =
      (false, c :: whole ++ .char '.' :: part) := by
    rw [List.cons_append, sign]
    · rintro cs ⟨⟩
      exact absurd digit (by decide)
    · rintro cs ⟨⟩
      exact absurd digit (by decide)
  have run : digitRun (c :: whole ++ .char '.' :: part) = (c :: whole, .char '.' :: part) :=
    digitRun_append digits (by simp; decide)
  have rest : digitRun part = (part, []) := by
    have all : digitRun (part ++ []) = (part, []) := digitRun_append decimals (by simp)
    rwa [List.append_nil] at all
  obtain ⟨first, second⟩ := smallLetter_of_isDigit digit
  unfold read?
  rw [bare, unsigned]
  dsimp only
  unfold magnitude?
  rw [run]
  simp [first, second, fraction, rest, exponent?, Text.ofString]

theorem ofDecimal_ne_nan (negative : Bool) (digits : Nat) (exponent : Int) (object : Nat) :
    ofDecimal negative digits exponent ≠ .nan object := by
  unfold ofDecimal
  split
  · nofun
  · dsimp only
    split
    · nofun
    split
    · nofun
    · exact Binary64.ofMagnitude_ne_nan _ _ _

end Numeral

namespace Token

/-! ### Lexemes of numbers -/

theorem scanFrom_lexemes (p : Position) (skip : Nat) (source : Text) :
    ∀ t ∈ scanFrom p skip source, t.kind = .stop ∨
      ∃ c cs, (lexeme c cs).kind = some t.kind ∧
        t.value = valueOf t.kind ((c :: cs).take (lexeme c cs).length) := by
  fun_induction scanFrom p skip source with
  | case1 p skip => simp
  | case2 p c cs skip ih => exact ih
  | case3 p c cs found rest blank ih => exact ih
  | case4 p c cs found rest kind lexed ih =>
    intro t member
    rcases List.mem_cons.mp member with rfl | member
    · exact .inr ⟨c, cs, lexed, rfl⟩
    · exact ih t member

def isNumber : TokenKind → Bool
  | .integer => true
  | .decimal => true
  | _ => false

theorem isNumber_singleKind? {c : CodePoint} {kind : TokenKind}
    (single : singleKind? c = some kind) : isNumber kind = false := by
  unfold singleKind? at single
  split at single <;> cases single <;> rfl

theorem isNumber_doubleKind? {c d : CodePoint} {kind : TokenKind}
    (double : doubleKind? c d = some kind) : isNumber kind = false := by
  unfold doubleKind? at double
  split at double <;> cases double <;> rfl

theorem isNumber_wordKind (word : Text) : isNumber (wordKind word) = false := by
  unfold wordKind
  split <;> rfl

theorem lexeme_of_isNumber {c : CodePoint} {cs : Text} {kind : TokenKind}
    (lexed : (lexeme c cs).kind = some kind) (number : isNumber kind = true) :
    c.isDigit = true ∧ lexeme c cs = numberLexeme cs := by
  suffices digit : c.isDigit = true from ⟨digit, lexeme_digit digit cs⟩
  have double : ∀ other, cs.head?.bind (doubleKind? c) = some other → isNumber other = false := by
    intro other found
    obtain ⟨d, -, found⟩ := Option.bind_eq_some_iff.mp found
    exact isNumber_doubleKind? found
  unfold lexeme at lexed
  split at lexed
  · cases lexed
  split at lexed
  · cases lexed
  split at lexed
  · rename_i found
    cases lexed
    simp [double _ found] at number
  · rename_i found
    cases lexed
    simp [isNumber_singleKind? found] at number
  · split at lexed
    · assumption
    split at lexed
    · split at lexed <;> cases lexed <;> cases number
    split at lexed
    · cases lexed
      simp [isNumber_wordKind] at number
    · cases lexed
      cases number

theorem numberLexeme_cases (cs : Text) :
    (∃ digits rest : Text, cs = digits ++ rest ∧ (∀ d ∈ digits, d.isDigit = true) ∧
      numberLexeme cs = ⟨some .integer, 1 + digits.length⟩) ∨
    ∃ digits part rest : Text, cs = digits ++ .char '.' :: (part ++ rest) ∧
      (∀ d ∈ digits, d.isDigit = true) ∧ (∀ d ∈ part, d.isDigit = true) ∧ part ≠ [] ∧
      numberLexeme cs = ⟨some .decimal, 1 + digits.length + 1 + part.length⟩ := by
  have cut : cs = cs.takeWhile CodePoint.isDigit ++ cs.dropWhile CodePoint.isDigit :=
    List.takeWhile_append_dropWhile.symm
  have digits : ∀ d ∈ cs.takeWhile CodePoint.isDigit, d.isDigit = true :=
    fun d member => List.mem_takeWhile_imp member
  unfold numberLexeme
  dsimp only
  split
  · rename_i c rest found
    split
    · rename_i digit
      refine .inr ⟨_, c :: rest.takeWhile CodePoint.isDigit, rest.dropWhile CodePoint.isDigit,
        ?_, digits, ?_, by simp, ?_⟩
      · rw [List.cons_append, List.takeWhile_append_dropWhile, ← found]
        exact cut
      · intro d member
        rcases List.mem_cons.mp member with rfl | member
        · exact digit
        · exact List.mem_takeWhile_imp member
      · congr 1
        rw [List.length_cons]
        omega
    · exact .inl ⟨_, _, cut, digits, rfl⟩
  · exact .inl ⟨_, _, cut, digits, rfl⟩

/-! ### Tokens of numbers -/

theorem digits_of_scan {source : Text} {t : Token} (member : t ∈ scan source)
    (integer : t.kind = .integer) : t.value ≠ [] ∧ ∀ c ∈ t.value, c.isDigit = true := by
  rcases scanFrom_lexemes _ _ _ t member with stop | ⟨c, cs, lexed, value⟩
  · cases integer.symm.trans stop
  rw [integer] at lexed value
  obtain ⟨digit, number⟩ := lexeme_of_isNumber lexed rfl
  rw [number] at lexed value
  rcases numberLexeme_cases cs with ⟨digits, rest, rfl, each, same⟩ | ⟨_, _, _, _, _, _, _, same⟩
  · rw [same] at value
    have whole : t.value = c :: digits := by
      rw [value, Nat.add_comm]
      simp [valueOf]
    rw [whole]
    exact ⟨by simp, List.forall_mem_cons.mpr ⟨digit, each⟩⟩
  · rw [same] at lexed
    cases lexed

theorem read?_of_scan {source : Text} {t : Token} (member : t ∈ scan source)
    (decimal : t.kind = .decimal) :
    ∃ x, Numeral.read? t.value = some x ∧ ∀ object, x ≠ .nan object := by
  rcases scanFrom_lexemes _ _ _ t member with stop | ⟨c, cs, lexed, value⟩
  · cases decimal.symm.trans stop
  rw [decimal] at lexed value
  obtain ⟨digit, number⟩ := lexeme_of_isNumber lexed rfl
  rw [number] at lexed value
  rcases numberLexeme_cases cs with
    ⟨_, _, _, _, same⟩ | ⟨digits, part, rest, rfl, each, decimals, given, same⟩
  · rw [same] at lexed
    cases lexed
  · rw [same] at value
    have whole : t.value = c :: digits ++ .char '.' :: part := by
      have length : 1 + digits.length + 1 + part.length =
          (c :: digits ++ .char '.' :: part).length := by simp; omega
      have front : c :: (digits ++ .char '.' :: (part ++ rest)) =
          (c :: digits ++ .char '.' :: part) ++ rest := by simp
      rw [value, length, front, List.take_left]
      rfl
    rw [whole]
    exact ⟨_, Numeral.read?_of_digits (List.forall_mem_cons.mpr ⟨digit, each⟩) (by simp) decimals
      given, Numeral.ofDecimal_ne_nan _ _ _⟩

end Token

end SqlConsole
