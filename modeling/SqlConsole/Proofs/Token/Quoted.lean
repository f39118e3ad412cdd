import SqlConsole.Proofs.Token.Spelling

/-!
# Quoted texts

A text can be written between quotes unless one of its backslashes would take a quote or a newline
along, or nothing (`exists_standsFor_iff`). What is written so is one token wherever it stands
(`scan_reads_quoted`).
-/

namespace SqlConsole.Token

variable {quote : CodePoint} {t v : Text}

/-- What the backslashes of a text take along from left to right: the code point after each, or none
at the end of the text. -/
def takenAlong : Text → List (Option CodePoint)
  | [] => []
  | [.char '\\'] => [none]
  | .char '\\' :: c :: cs => some c :: takenAlong cs
  | _ :: cs => takenAlong cs

theorem takenAlong_cons {c : CodePoint} (visible : c ≠ '\\') (cs : Text) :
    takenAlong (c :: cs) = takenAlong cs := by
  rw [takenAlong]
  · rintro rfl
    exact absurd rfl visible
  · rintro _ _ rfl
    exact absurd rfl visible

/-- Some text between quotes stands for a text exactly if each backslash of it takes a code point
along that is neither a quote nor a newline. -/
theorem exists_standsFor_iff (quotes : quote = '\'' ∨ quote = '"') :
    (∃ inner, StandsFor quote inner v) ↔
      ∀ taken ∈ takenAlong v, ∃ c ∈ taken, c ≠ '\n' ∧ c ≠ quote := by
  constructor
  · rintro ⟨inner, stands⟩
    induction stands with
    | nil => simp [takenAlong]
    | plain _ visible _ ih => rwa [takenAlong_cons visible]
    | escaped _ ih => rwa [takenAlong_cons (quote_apart quotes).1]
    | @pair c inner value other inline _ ih =>
      rw [takenAlong]
      exact List.forall_mem_cons.mpr ⟨⟨c, rfl, inline, other⟩, ih⟩
  · intro each
    fun_induction takenAlong v with
    | case1 => exact ⟨[], .nil⟩
    | case2 => simp at each
    | case3 c cs ih =>
      obtain ⟨⟨_, ⟨⟩, inline, other⟩, others⟩ := List.forall_mem_cons.mp each
      obtain ⟨inner, stands⟩ := ih others
      exact ⟨_, .pair other inline stands⟩
    | case4 c cs alone visible ih =>
      obtain ⟨inner, stands⟩ := ih each
      by_cases same : c = quote
      · subst same
        exact ⟨_, .escaped stands⟩
      · refine ⟨_, .plain same ?_ stands⟩
        rintro rfl
        cases cs with
        | nil => exact alone rfl rfl
        | cons d ds => exact visible d ds rfl rfl

theorem StandsFor.eq_escape {inner : Text} (stands : StandsFor quote inner v)
    (plain : .char '\\' ∉ v) : inner = escape quote v := by
  induction stands with
  | nil => rfl
  | plain other _ _ ih =>
    rw [escape_cons other, ← ih fun member => plain (List.mem_cons_of_mem _ member)]
  | escaped _ ih =>
    rw [escape_cons_quote, ← ih fun member => plain (List.mem_cons_of_mem _ member)]
  | pair => exact absurd List.mem_cons_self plain

/-! ### Texts that are one token -/

/-- Whether a text that starts with the quote is read as one token that stands for `v`. -/
def IsQuoted (quote : CodePoint) (t v : Text) : Prop :=
  t.head? = some quote ∧
    ∃ stop, scan t = [⟨.text, v, 1, 1, 0, t.length⟩, stop] ∧ stop.kind = .stop

theorem scanFrom_token (p : Position) (quotes : quote = '\'' ∨ quote = '"') {inner : Text}
    (stands : StandsFor quote inner v) (whole : t = quote :: (inner ++ [quote])) (rest : Text) :
    scanFrom p 0 (t ++ rest) =
      ⟨.text, v, p.line, p.column, p.offset, p.offset + t.length⟩ ::
        scanFrom (p.after t) 0 rest := by
  have value := placed_value_of_standsFor p quotes stands
  rw [whole, scanFrom_standsFor p quotes stands]
  conv => rhs; rw [← value]
  rfl

theorem isQuoted_iff (quotes : quote = '\'' ∨ quote = '"') :
    IsQuoted quote t v ↔
      ∃ inner, t = quote :: (inner ++ [quote]) ∧ StandsFor quote inner v := by
  constructor
  · rintro ⟨first, stop, scanned, -⟩
    obtain ⟨cs, rfl⟩ := List.head?_eq_some_iff.mp first
    cases closed : quotedLength? quote cs with
    | none =>
      rw [scan, scanFrom, lexeme_quote quotes, closed] at scanned
      cases scanned
    | some n =>
      obtain ⟨inner, value, rest, rfl, stands, rfl⟩ := exists_standsFor closed
      have whole : quote :: (inner ++ quote :: rest) = quote :: (inner ++ [quote]) ++ rest := by
        simp
      rw [whole, scan, scanFrom_token .start quotes stands rfl] at scanned
      obtain ⟨same, -⟩ := List.cons.inj scanned
      simp only [Token.mk.injEq, List.length_append] at same
      obtain rfl : rest = [] := List.eq_nil_of_length_eq_zero (by omega)
      exact ⟨inner, rfl, same.2.1 ▸ stands⟩
  · rintro ⟨inner, whole, stands⟩
    have scanned := scanFrom_token .start quotes stands whole []
    rw [List.append_nil, show Position.start.offset = 0 from rfl, Nat.zero_add] at scanned
    exact ⟨by rw [whole]; rfl, _, scanned, rfl⟩

/-- Some text is read as a quoted one that stands for `v` exactly if each backslash of `v` takes a
code point along that is neither a quote nor a newline. If `v` has no backslash, this is `v` with a
backslash before each quote. Wherever a scan comes to such a text, it reads this one token. -/
theorem scan_reads_quoted (quotes : quote = '\'' ∨ quote = '"') (v : Text) :
    ((∃ t, IsQuoted quote t v) ↔
        ∀ taken ∈ takenAlong v, ∃ c ∈ taken, c ≠ '\n' ∧ c ≠ quote) ∧
      (.char '\\' ∉ v → ∀ t, IsQuoted quote t v ↔ t = quoted quote v) ∧
      ∀ t, IsQuoted quote t v → ∀ (p : Position) (rest : Text),
        scanFrom p 0 (t ++ rest) =
          ⟨.text, v, p.line, p.column, p.offset, p.offset + t.length⟩ ::
            scanFrom (p.after t) 0 rest := by
  refine ⟨?_, fun plain t => ?_, fun t read p rest => ?_⟩
  · rw [← exists_standsFor_iff quotes]
    simp only [isQuoted_iff quotes, exists_comm (α := Text), exists_eq_left]
  · rw [isQuoted_iff quotes]
    constructor
    · rintro ⟨inner, rfl, stands⟩
      rw [stands.eq_escape plain, quoted]
    · rintro rfl
      exact ⟨_, rfl, standsFor_escape quote plain⟩
  · obtain ⟨inner, whole, stands⟩ := (isQuoted_iff quotes).mp read
    exact scanFrom_token p quotes stands whole rest

/-- An apostrophe can be written behind two backslashes, and not behind one. Alone it is written
with a backslash. -/
theorem scan_reads_quoted_apostrophe :
    (∃ t, IsQuoted '\'' t "a\\\\'") ∧ (¬∃ t, IsQuoted '\'' t "a\\'") ∧
      ∀ (p : Position) (rest : Text), scanFrom p 0 ("'it\\'s'" ++ rest) =
        ⟨.text, "it's", p.line, p.column, p.offset, p.offset + 7⟩ ::
          scanFrom (p.after "'it\\'s'") 0 rest := by
  have apostrophe : CodePoint.char '\'' = '\'' ∨ CodePoint.char '\'' = '"' := .inl rfl
  have written := (scan_reads_quoted apostrophe "a\\\\'").1.mpr (by decide)
  have unwritten := mt (scan_reads_quoted apostrophe "a\\'").1.mp (by decide)
  obtain ⟨-, alone, whole⟩ := scan_reads_quoted apostrophe "it's"
  have read := (alone (by decide) "'it\\'s'").mpr (by decide)
  exact ⟨written, unwritten, whole _ read⟩

end SqlConsole.Token
