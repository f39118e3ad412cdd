import SqlConsole.Proofs.Token.Append

/-!
# First tokens

The first token of a text keeps its kind when the text goes on with a code point that goes on with
no lexeme, unless it is a quote that is closed there (`head?_scanFrom_append`). A text that starts
with a reserved word starts with the code points of a word (`exists_word_of_keyword`).
-/

namespace SqlConsole.Token

variable {c d : CodePoint} {cs : Text}

/-! ### Kinds of lexemes -/

theorem numberLexeme_kind_cases (cs : Text) :
    (numberLexeme cs).kind = some .integer ∨ (numberLexeme cs).kind = some .decimal := by
  rcases numberLexeme_cases cs with ⟨_, _, -, -, same⟩ | ⟨_, _, _, -, -, -, -, same⟩
  · exact .inl (by rw [same])
  · exact .inr (by rw [same])

theorem exists_kind_lexeme (solid : c.isBlank = false)
    (uncommented : ¬(c = '-' ∧ cs.head? = some (.char '-'))) :
    ∃ kind, (lexeme c cs).kind = some kind := by
  rw [lexeme, if_neg (by simp [solid]), if_neg uncommented]
  split
  · exact ⟨_, rfl⟩
  · exact ⟨_, rfl⟩
  split
  · rcases numberLexeme_kind_cases cs with same | same <;> exact ⟨_, same⟩
  split
  · split <;> exact ⟨_, rfl⟩
  split <;> exact ⟨_, rfl⟩

theorem singleKind?_cases {kind : TokenKind} (single : singleKind? c = some kind) :
    kind ≠ .stray ∧ (∀ k, kind ≠ .keyword k) ∧ kind ≠ .identifier := by
  unfold singleKind? at single
  split at single <;> cases single <;> simp

theorem doubleKind?_cases {kind : TokenKind} (double : cs.head?.bind (doubleKind? c) = some kind) :
    kind ≠ .stray ∧ (∀ k, kind ≠ .keyword k) ∧ kind ≠ .identifier := by
  obtain ⟨d, -, found⟩ := Option.bind_eq_some_iff.mp double
  unfold doubleKind? at found
  split at found <;> cases found <;> simp

theorem lexeme_keyword {k : Keyword} (word : (lexeme c cs).kind = some (.keyword k)) :
    c.isWordStart = true ∧ wordKind (c :: cs.takeWhile CodePoint.isWord) = .keyword k := by
  unfold lexeme at word
  split at word
  · cases word
  split at word
  · cases word
  split at word
  · rename_i found
    exact absurd (Option.some.inj word) ((doubleKind?_cases found).2.1 k)
  · rename_i found
    exact absurd (Option.some.inj word) ((singleKind?_cases found).2.1 k)
  split at word
  · rcases numberLexeme_kind_cases cs with same | same <;> cases same.symm.trans word
  rename_i digitless
  split at word
  · split at word <;> cases word
  split at word
  · rename_i letter
    exact ⟨by simp [CodePoint.isWordStart, letter, digitless], Option.some.inj word⟩
  · cases word

theorem lexeme_identifier {found : Lexeme} (lexed : lexeme c cs = found)
    (name : found.kind = some .identifier) :
    c.isWord = true ∧ found.length = 1 + (cs.takeWhile CodePoint.isWord).length := by
  unfold lexeme at lexed
  split at lexed
  · cases lexed
    cases name
  split at lexed
  · cases lexed
    cases name
  split at lexed
  · rename_i double
    cases lexed
    exact absurd (Option.some.inj name) (doubleKind?_cases double).2.2
  · rename_i single
    cases lexed
    exact absurd (Option.some.inj name) (singleKind?_cases single).2.2
  split at lexed
  · cases lexed
    rcases numberLexeme_kind_cases cs with same | same <;> cases same.symm.trans name
  split at lexed
  · split at lexed <;> cases lexed <;> cases name
  split at lexed
  · rename_i letter
    cases lexed
    exact ⟨letter, rfl⟩
  · cases lexed
    cases name

theorem isWord_of_identifier {source : Text} {t : Token} (member : t ∈ scan source)
    (name : t.kind = .identifier) : ∀ c ∈ t.value, c.isWord = true := by
  rcases scanFrom_lexemes _ _ _ t member with stop | ⟨c, cs, lexed, value⟩
  · cases name.symm.trans stop
  rw [name] at lexed value
  obtain ⟨letter, length⟩ := lexeme_identifier rfl lexed
  have whole : t.value = c :: cs.takeWhile CodePoint.isWord := by
    rw [value, length, Nat.add_comm, List.take_succ_cons]
    have front : cs.take (cs.takeWhile CodePoint.isWord).length = cs.takeWhile CodePoint.isWord :=
      (List.prefix_iff_eq_take.mp (List.takeWhile_prefix _)).symm
    rw [front]
    rfl
  rw [whole]
  exact List.forall_mem_cons.mpr ⟨letter, fun d inside => List.mem_takeWhile_imp inside⟩

theorem lexeme_stray_append (edge : IsEdge d) (stray : (lexeme c cs).kind = some .stray)
    (rest : Text) :
    (lexeme c (cs ++ d :: rest)).kind = some .stray ∨
      (lexeme c (cs ++ d :: rest)).kind = some .text := by
  unfold lexeme at stray ⊢
  simp only [doubleKind?_append edge c cs rest, head?_hyphen_append edge cs rest]
  split at stray
  · cases stray
  rename_i solid
  split at stray
  · cases stray
  rename_i uncommented
  rw [if_neg solid, if_neg uncommented]
  split at stray
  · rename_i found
    exact absurd (Option.some.inj stray) (doubleKind?_cases found).1
  · rename_i found
    exact absurd (Option.some.inj stray) (singleKind?_cases found).1
  split at stray
  · rcases numberLexeme_kind_cases cs with same | same <;> cases same.symm.trans stray
  rename_i digitless
  rw [if_neg digitless]
  split at stray
  · rename_i quote
    rw [if_pos quote]
    split
    · exact .inr rfl
    · exact .inl rfl
  rename_i quoteless
  rw [if_neg quoteless]
  split at stray
  · exact absurd (Option.some.inj stray) (wordKind_ne_stray _)
  · rename_i other
    rw [if_neg other]
    exact .inl rfl

theorem lexeme_kind_append (edge : IsEdge d) {kind : TokenKind}
    (found : (lexeme c cs).kind = some kind) (rest : Text) :
    (lexeme c (cs ++ d :: rest)).kind = some kind ∨
      kind = .stray ∧ (lexeme c (cs ++ d :: rest)).kind = some .text := by
  by_cases stray : kind = .stray
  · subst stray
    exact (lexeme_stray_append edge found rest).imp_right fun closed => ⟨rfl, closed⟩
  · have solid : c.isBlank = false := by
      by_contra blank
      rw [lexeme, if_pos (by simpa using blank)] at found
      cases found
    refine .inl ?_
    rw [lexeme_append edge (by simpa [found] using stray) (by simp [solid]) ?_ rest, found]
    rintro rfl comment
    rw [lexeme, if_neg (by simp [solid]), if_pos ⟨rfl, comment⟩] at found
    cases found

/-! ### First tokens -/

theorem head?_scanFrom_lexeme (p : Position) {kind : TokenKind}
    (found : (lexeme c cs).kind = some kind) :
    ∃ first ∈ (scanFrom p 0 (c :: cs)).head?, first.kind = kind := by
  rw [scanFrom]
  simp only [found]
  exact ⟨_, rfl, rfl⟩

theorem scanFrom_kindless (p : Position) (found : (lexeme c cs).kind = none) :
    scanFrom p 0 (c :: cs) = scanFrom (p.advance c) ((lexeme c cs).length - 1) cs := by
  rw [scanFrom]
  simp only [found]

/-- The first token of a text keeps its kind where the text goes on with a code point that goes on
with no lexeme, unless it is a quote that is closed there. -/
theorem head?_scanFrom_append (edge : IsEdge d) (rest : Text) {t : Text} {skip : Nat}
    {first : Token} (p : Position) (bounded : skip ≤ t.length)
    (starts : first ∈ (scanFrom p skip t).head?) (real : first.kind ≠ .stop) :
    ∃ token ∈ (scanFrom p skip (t ++ d :: rest)).head?,
      token.kind = first.kind ∨ first.kind = .stray ∧ token.kind = .text := by
  induction t generalizing p skip with
  | nil =>
    rw [Nat.le_zero.mp bounded] at starts
    cases starts
    exact absurd rfl real
  | cons c cs ih =>
    cases skip with
    | succ skip => exact ih (p.advance c) (Nat.le_of_succ_le_succ bounded) starts
    | zero =>
      by_cases blank : c.isBlank = true
      · have alone := scanFrom_blank_cons p blank
        rw [List.cons_append, alone]
        exact ih (p.advance c) (Nat.zero_le _) (alone cs ▸ starts)
      cases found : (lexeme c cs).kind with
      | some kind =>
        obtain ⟨token, head, same⟩ := head?_scanFrom_lexeme p found
        cases Option.mem_unique starts head
        rcases lexeme_kind_append edge found rest with kept | ⟨stray, closed⟩
        · obtain ⟨token, head, kind⟩ := head?_scanFrom_lexeme p kept
          exact ⟨token, head, .inl (kind.trans same.symm)⟩
        · obtain ⟨token, head, kind⟩ := head?_scanFrom_lexeme p closed
          exact ⟨token, head, .inr ⟨same.trans stray, kind⟩⟩
      | none =>
        -- What is no token and no blank is a comment. A token follows it, so it ends in the text.
        have comment : c = '-' ∧ cs.head? = some (.char '-') := by
          by_contra uncommented
          obtain ⟨kind, lexed⟩ := exists_kind_lexeme (by simpa using blank) uncommented
          cases found.symm.trans lexed
        have ended : .char '\n' ∈ cs := by
          by_contra unended
          obtain ⟨rfl, dash⟩ := comment
          obtain ⟨inline, rfl⟩ := List.head?_eq_some_iff.mp dash
          obtain ⟨stop, scanned, ends⟩ :=
            scanFrom_openComment p fun member => unended (List.mem_cons_of_mem _ member)
          rw [scanned] at starts
          cases starts
          exact real ends
        have same : lexeme c (cs ++ d :: rest) = lexeme c cs :=
          lexeme_append edge (by simp [found]) (fun solid => absurd solid blank)
            (fun _ _ => .inr ended) rest
        have within := (lexeme_length c cs).2
        rw [scanFrom_kindless p found] at starts
        rw [List.cons_append, scanFrom_kindless p (same ▸ found), same]
        exact ih (p.advance c) (by omega) starts

end SqlConsole.Token
