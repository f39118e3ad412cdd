import SqlConsole.Proofs.Text.Case
import SqlConsole.Proofs.Token.Lexeme

/-!
# Spelling of tokens

Each kind of token has its spelling: words (`scanFrom_word`), whole numbers (`scanFrom_integer`),
operators (`scanFrom_single`, `scanFrom_double`) and quoted texts (`scanFrom_standsFor`). What
stands after a token may not be read as a part of it.
-/

namespace SqlConsole

/-! ### Words -/

def Text.IsWord (t : Text) : Prop :=
  ∃ c cs, t = c :: cs ∧ c.isWordStart = true ∧ ∀ d ∈ cs, d.isWord = true

instance : DecidablePred Text.IsWord
  | [] => .isFalse fun ⟨_, _, whole, _⟩ => List.cons_ne_nil _ _ whole.symm
  | c :: cs => decidable_of_iff (c.isWordStart = true ∧ ∀ d ∈ cs, d.isWord = true)
    ⟨fun word => ⟨c, cs, rfl, word⟩, fun ⟨_, _, whole, word⟩ => by cases whole; exact word⟩

/-- Whether a text is a reserved word, each letter in either case. -/
def Keyword.IsSpelling (k : Keyword) (t : Text) : Prop :=
  ∃ s : List Char, t = s.map .char ∧ (s.map Char.toLower).map .char = k.spelling

namespace Keyword

variable {k : Keyword} {t : Text}

theorem ascii_of_toLower {ch : Char} (ascii : ch.toLower.toNat < 0x80) : ch.toNat < 0x80 := by
  unfold Char.toLower at ascii
  split at ascii
  · rename_i upper
    have below : ch.toNat ≤ 90 := upper.2
    omega
  · exact ascii

theorem mem_all (k : Keyword) : k ∈ all := by
  cases k <;> decide

theorem ofSpelling?_spelling (k : Keyword) : ofSpelling? k.spelling = some k := by
  have each : all.all (fun k => ofSpelling? k.spelling == some k) = true := by decide
  simpa using List.all_eq_true.mp each k k.mem_all

theorem letters_of_isSpelling {s : List Char}
    (same : (s.map Char.toLower).map CodePoint.char = k.spelling) :
    ∀ ch ∈ s, ch.toNat < 0x80 ∧ CodePoint.isWordStart ch = true := by
  have letters : all.all (fun k => k.spelling.all fun c => 97 ≤ c.code && c.code ≤ 122) = true := by
    decide
  intro ch member
  have lowered : CodePoint.char ch.toLower ∈ k.spelling := by
    rw [← same]
    exact List.mem_map_of_mem (List.mem_map_of_mem member)
  have letter := List.all_eq_true.mp (List.all_eq_true.mp letters k k.mem_all) _ lowered
  rw [Bool.and_eq_true] at letter
  have bounds : 97 ≤ ch.toLower.toNat ∧ ch.toLower.toNat ≤ 122 :=
    ⟨of_decide_eq_true letter.1, of_decide_eq_true letter.2⟩
  have ascii : ch.toNat < 0x80 := ascii_of_toLower (by omega)
  refine ⟨ascii, ?_⟩
  revert bounds
  exact CodePoint.forall_ascii
    (p := fun ch => 97 ≤ ch.toLower.toNat ∧ ch.toLower.toNat ≤ 122 →
      CodePoint.isWordStart ch = true) (by decide) ascii

theorem IsSpelling.isWord (spelt : k.IsSpelling t) : t.IsWord := by
  obtain ⟨s, rfl, same⟩ := spelt
  have letters := letters_of_isSpelling same
  cases s with
  | nil => exact absurd same (by cases k <;> decide)
  | cons ch s =>
    refine ⟨ch, s.map .char, rfl, (letters ch List.mem_cons_self).2, fun d member => ?_⟩
    obtain ⟨e, inner, rfl⟩ := List.mem_map.mp member
    have start := (letters e (List.mem_cons_of_mem _ inner)).2
    exact (Bool.and_eq_true_iff.mp start).1

theorem IsSpelling.wordKind (spelt : k.IsSpelling t) : Token.wordKind t = .keyword k := by
  obtain ⟨s, rfl, same⟩ := spelt
  unfold Token.wordKind
  rw [Text.lower_ascii fun ch member => (letters_of_isSpelling same ch member).1, same,
    ofSpelling?_spelling]

end Keyword

namespace Token

variable {rest : Text}

/-- Whether a code point starts neither a blank, a word, a number nor a quoted text. -/
def isSymbol (c : CodePoint) : Bool :=
  !c.isBlank && !c.isWord && !c.isDigit && c != '\'' && c != '"'

theorem singleKind?_eq_none {c : CodePoint} (plain : isSymbol c = false) :
    singleKind? c = none := by
  unfold singleKind?
  split <;> first | rfl | exact absurd plain (by decide)

theorem doubleKind?_eq_none {c : CodePoint} (plain : isSymbol c = false) (cs : Text) :
    cs.head?.bind (doubleKind? c) = none := by
  cases cs with
  | nil => rfl
  | cons d cs =>
    rw [List.head?_cons, Option.bind_some]
    unfold doubleKind?
    split <;> first | rfl | exact absurd plain (by decide)

theorem not_comment {c : CodePoint} (plain : isSymbol c = false) (cs : Text) :
    ¬(c = '-' ∧ cs.head? = some (.char '-')) := by
  rintro ⟨rfl, -⟩
  exact absurd plain (by decide)

theorem lexeme_wordStart {c : CodePoint} (start : c.isWordStart = true) (cs : Text) :
    lexeme c cs = ⟨some (wordKind (c :: cs.takeWhile CodePoint.isWord)),
      (cs.takeWhile CodePoint.isWord).length + 1⟩ := by
  obtain ⟨word, digitless⟩ := Bool.and_eq_true_iff.mp start
  have quoteless : ¬(c = '\'' ∨ c = '"') := by
    rintro (rfl | rfl) <;> exact absurd word (by decide)
  have plain : isSymbol c = false := by simp [isSymbol, word]
  rw [lexeme, if_neg (by simp [CodePoint.isBlank_of_isWord word]), if_neg (not_comment plain cs),
    doubleKind?_eq_none plain, singleKind?_eq_none plain]
  have digitless : ¬c.isDigit = true := by simpa using digitless
  simp only [if_neg digitless, if_neg quoteless, if_pos word, Nat.add_comm]

theorem scanFrom_word (p : Position) {w : Text} (word : w.IsWord)
    (edge : ∀ c ∈ rest.head?, c.isWord = false) :
    scanFrom p 0 (w ++ rest) = placed p (wordKind w) w :: scanFrom (p.after w) 0 rest := by
  obtain ⟨c, cs, rfl, start, inner⟩ := word
  have run : (cs ++ rest).takeWhile CodePoint.isWord = cs := by
    rw [List.takeWhile_append_of_pos inner]
    cases rest with
    | nil => simp
    | cons d ds => simp [edge d rfl]
  apply scanFrom_lexeme p c cs rest (some _)
  rw [lexeme_wordStart start, run]

/-! ### Whole numbers -/

theorem isBlank_of_isDigit {c : CodePoint} (digit : c.isDigit = true) : c.isBlank = false := by
  by_contra blank
  rw [CodePoint.isDigit_of_isBlank (by simpa using blank)] at digit
  exact Bool.noConfusion digit

theorem numberLexeme_integer {cs : Text} (digits : ∀ d ∈ cs, d.isDigit = true)
    (edge : ∀ c ∈ rest.head?, c.isDigit = false ∧ c ≠ '.') :
    numberLexeme (cs ++ rest) = ⟨some .integer, cs.length + 1⟩ := by
  have stops : rest.takeWhile CodePoint.isDigit = [] ∧ rest.dropWhile CodePoint.isDigit = rest := by
    cases rest with
    | nil => exact ⟨rfl, rfl⟩
    | cons c cs => simp [(edge c rfl).1]
  unfold numberLexeme
  rw [List.takeWhile_append_of_pos digits, List.dropWhile_append_of_pos digits, stops.1, stops.2,
    List.append_nil, Nat.add_comm]
  dsimp only
  split
  · exact absurd rfl (edge _ rfl).2
  · rfl

theorem lexeme_digit {c : CodePoint} (digit : c.isDigit = true) (cs : Text) :
    lexeme c cs = numberLexeme cs := by
  have plain : isSymbol c = false := by simp [isSymbol, digit]
  rw [lexeme, if_neg (by simp [isBlank_of_isDigit digit]), if_neg (not_comment plain cs),
    doubleKind?_eq_none plain, singleKind?_eq_none plain]
  simp only [if_pos digit]

theorem scanFrom_integer (p : Position) {w : Text} (nonempty : w ≠ [])
    (digits : ∀ c ∈ w, c.isDigit = true)
    (edge : ∀ c ∈ rest.head?, c.isDigit = false ∧ c ≠ '.') :
    scanFrom p 0 (w ++ rest) = placed p .integer w :: scanFrom (p.after w) 0 rest := by
  obtain ⟨c, cs, rfl⟩ := List.exists_cons_of_ne_nil nonempty
  apply scanFrom_lexeme p c cs rest (some _)
  rw [lexeme_digit (digits c List.mem_cons_self),
    numberLexeme_integer (fun d member => digits d (List.mem_cons_of_mem _ member)) edge]

/-! ### Operators -/

theorem isBlank_of_singleKind? {c : CodePoint} {kind : TokenKind}
    (single : singleKind? c = some kind) : c.isBlank = false := by
  by_contra blank
  have blank : c.isBlank = true := by simpa using blank
  rw [singleKind?_eq_none (by simp [isSymbol, blank])] at single
  cases single

theorem isBlank_of_doubleKind? {c d : CodePoint} {kind : TokenKind}
    (double : doubleKind? c d = some kind) : c.isBlank = false := by
  by_contra blank
  have blank : c.isBlank = true := by simpa using blank
  have none := doubleKind?_eq_none (c := c) (by simp [isSymbol, blank]) [d]
  rw [List.head?_cons, Option.bind_some, double] at none
  cases none

theorem scanFrom_single (p : Position) {c : CodePoint} {kind : TokenKind}
    (single : singleKind? c = some kind) (apart : rest.head?.bind (doubleKind? c) = none)
    (uncommented : c = '-' → rest.head? ≠ some (.char '-')) :
    scanFrom p 0 (c :: rest) = placed p kind [c] :: scanFrom (p.after [c]) 0 rest := by
  apply scanFrom_lexeme p c [] rest (some kind)
  rw [List.nil_append, lexeme, if_neg (by simp [isBlank_of_singleKind? single]),
    if_neg fun comment => uncommented comment.1 comment.2, apart, single]
  rfl

theorem scanFrom_double (p : Position) {c d : CodePoint} {kind : TokenKind}
    (double : doubleKind? c d = some kind) :
    scanFrom p 0 (c :: d :: rest) = placed p kind [c, d] :: scanFrom (p.after [c, d]) 0 rest := by
  have comment : ¬(c = '-' ∧ (d :: rest).head? = some (.char '-')) := by
    rintro ⟨rfl, -⟩
    simp [doubleKind?] at double
  apply scanFrom_lexeme p c [d] rest (some kind)
  rw [List.singleton_append, lexeme, if_neg (by simp [isBlank_of_doubleKind? double]),
    if_neg comment, List.head?_cons, Option.bind_some, double]
  rfl

/-! ### Quoted texts -/

def escape (quote : CodePoint) (t : Text) : Text :=
  t.flatMap fun c => if c = quote then ['\\', quote] else [c]

def quoted (quote : CodePoint) (t : Text) : Text := quote :: (escape quote t ++ [quote])

theorem escape_cons_quote (quote : CodePoint) (t : Text) :
    escape quote (quote :: t) = .char '\\' :: quote :: escape quote t := by
  simp [escape]

theorem escape_cons {quote c : CodePoint} (other : c ≠ quote) (t : Text) :
    escape quote (c :: t) = c :: escape quote t := by
  simp [escape, other]

theorem quotedLength?_cons {quote c : CodePoint} (other : c ≠ quote) (plain : c ≠ '\\')
    (cs : Text) :
    quotedLength? quote (c :: cs) = (quotedLength? quote cs).map (· + 1) := by
  rw [quotedLength?]
  · rw [if_neg other, if_neg plain]
  · rintro _ _ rfl
    exact absurd rfl plain

/-- How the text between two quotes stands for another one: a quote behind a backslash for itself,
a backslash and any other code point but a newline for both of them, and all else for itself. -/
inductive StandsFor (quote : CodePoint) : (inner value : Text) → Prop
  | nil : StandsFor quote [] []
  | plain {c : CodePoint} {inner value : Text} (other : c ≠ quote) (visible : c ≠ '\\')
    (rest : StandsFor quote inner value) : StandsFor quote (c :: inner) (c :: value)
  | escaped {inner value : Text} (rest : StandsFor quote inner value) :
    StandsFor quote (.char '\\' :: quote :: inner) (quote :: value)
  | pair {c : CodePoint} {inner value : Text} (other : c ≠ quote) (inline : c ≠ '\n')
    (rest : StandsFor quote inner value) :
    StandsFor quote (.char '\\' :: c :: inner) (.char '\\' :: c :: value)

theorem standsFor_escape (quote : CodePoint) {t : Text} (plain : .char '\\' ∉ t) :
    StandsFor quote (escape quote t) t := by
  induction t with
  | nil => exact .nil
  | cons c t ih =>
    have rest := ih fun member => plain (List.mem_cons_of_mem _ member)
    by_cases same : c = quote
    · subst same
      rw [escape_cons_quote]
      exact .escaped rest
    · rw [escape_cons same]
      exact .plain same (fun slash => plain (slash ▸ List.mem_cons_self)) rest

theorem exists_standsFor {quote : CodePoint} {cs : Text} {n : Nat}
    (closed : quotedLength? quote cs = some n) :
    ∃ inner value rest, cs = inner ++ quote :: rest ∧ StandsFor quote inner value ∧
      n = inner.length + 1 := by
  fun_induction quotedLength? quote cs generalizing n with
  | case1 | case2 | case5 => cases closed
  | case3 c cs inline ih =>
    obtain ⟨m, found, rfl⟩ := Option.map_eq_some_iff.mp closed
    obtain ⟨inner, value, rest, rfl, stands, rfl⟩ := ih found
    by_cases same : c = quote
    · subst same
      exact ⟨_, _, rest, rfl, .escaped stands, rfl⟩
    · exact ⟨_, _, rest, rfl, .pair same inline stands, rfl⟩
  | case4 cs =>
    cases closed
    exact ⟨[], [], cs, rfl, .nil, rfl⟩
  | case6 c cs _ other visible ih =>
    obtain ⟨m, found, rfl⟩ := Option.map_eq_some_iff.mp closed
    obtain ⟨inner, value, rest, rfl, stands, rfl⟩ := ih found
    exact ⟨_, _, rest, rfl, .plain other visible stands, rfl⟩

theorem unescape_cons {quote c : CodePoint} {cs : Text}
    (apart : c = '\\' → cs.head? ≠ some quote) :
    unescape quote (c :: cs) = c :: unescape quote cs := by
  by_cases slash : c = '\\'
  · subst slash
    cases cs with
    | nil => rfl
    | cons d ds =>
      have other : d ≠ quote := by simpa using apart rfl
      rw [unescape, if_neg other]
  · rw [unescape]
    rintro _ _ rfl
    exact absurd rfl slash

namespace StandsFor

variable {quote : CodePoint} {inner value : Text}

theorem head?_ne (stands : StandsFor quote inner value) (closes : quote ≠ '\\') :
    inner.head? ≠ some quote := by
  cases stands with
  | nil => simp
  | plain other => simpa using other
  | escaped | pair => simpa using Ne.symm closes

theorem quotedLength?_eq (stands : StandsFor quote inner value) (closes : quote ≠ '\\')
    (oneLine : quote ≠ '\n') (rest : Text) :
    quotedLength? quote (inner ++ quote :: rest) = some (inner.length + 1) := by
  induction stands with
  | nil =>
    rw [List.nil_append, quotedLength?, if_pos rfl]
    · rfl
    · rintro _ _ rfl
      exact absurd rfl closes
  | plain other visible _ ih =>
    rw [List.cons_append, quotedLength?_cons other visible, ih]
    rfl
  | escaped _ ih =>
    rw [List.cons_append, List.cons_append, quotedLength?, if_neg oneLine, ih]
    rfl
  | pair _ inline _ ih =>
    rw [List.cons_append, List.cons_append, quotedLength?, if_neg inline, ih]
    rfl

theorem unescape_eq (stands : StandsFor quote inner value) (closes : quote ≠ '\\') :
    unescape quote inner = value := by
  induction stands with
  | nil => rfl
  | plain _ visible _ ih => rw [unescape_cons fun slash => absurd slash visible, ih]
  | escaped _ ih => rw [unescape, if_pos rfl, ih]
  | @pair c inner value other _ rest ih =>
    rw [unescape_cons fun _ => by simpa using other, unescape_cons fun _ => rest.head?_ne closes, ih]

end StandsFor

theorem lexeme_quote {quote : CodePoint} (quotes : quote = '\'' ∨ quote = '"') (cs : Text) :
    lexeme quote cs = match quotedLength? quote cs with
      | some n => ⟨some .text, n + 1⟩
      | none => ⟨some .stray, 1⟩ := by
  have classes : isSymbol quote = false ∧ quote.isBlank = false ∧ quote.isDigit = false := by
    rcases quotes with rfl | rfl <;> decide
  obtain ⟨plain, solid, digitless⟩ := classes
  rw [lexeme, if_neg (by simp [solid]), if_neg (not_comment plain cs),
    doubleKind?_eq_none plain, singleKind?_eq_none plain]
  cases quotedLength? quote cs <;>
    simp only [if_neg (show ¬quote.isDigit = true by simp [digitless]), if_pos quotes, Nat.add_comm]

theorem quote_apart {quote : CodePoint} (quotes : quote = '\'' ∨ quote = '"') :
    quote ≠ '\\' ∧ quote ≠ '\n' := by
  rcases quotes with rfl | rfl <;> decide

theorem scanFrom_standsFor (p : Position) {quote : CodePoint}
    (quotes : quote = '\'' ∨ quote = '"') {inner value : Text}
    (stands : StandsFor quote inner value) :
    scanFrom p 0 (quote :: (inner ++ [quote]) ++ rest) =
      placed p .text (quote :: (inner ++ [quote])) ::
        scanFrom (p.after (quote :: (inner ++ [quote]))) 0 rest := by
  obtain ⟨closes, oneLine⟩ := quote_apart quotes
  have closed : quotedLength? quote (inner ++ [quote] ++ rest) = some (inner.length + 1) := by
    rw [List.append_assoc, List.singleton_append]
    exact stands.quotedLength?_eq closes oneLine rest
  apply scanFrom_lexeme p quote (inner ++ [quote]) rest (some .text)
  rw [lexeme_quote quotes, closed, List.length_append, List.length_singleton]

theorem placed_value_of_standsFor (p : Position) {quote : CodePoint}
    (quotes : quote = '\'' ∨ quote = '"') {inner value : Text}
    (stands : StandsFor quote inner value) :
    (placed p .text (quote :: (inner ++ [quote]))).value = value := by
  simp [placed, valueOf, stands.unescape_eq (quote_apart quotes).1]

end Token

end SqlConsole
