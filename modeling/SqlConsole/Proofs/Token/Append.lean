import SqlConsole.Proofs.Token.Partition

/-!
# Texts that go on

A code point that goes on with no token ends the lexeme before it (`lexeme_append`). So the tokens
of a text stay as they are when the text goes on with one (`scanFrom_append`), unless the text ends
in a comment, which the code point may go on with.
-/

namespace SqlConsole.Token

/-- Whether a code point goes on with no lexeme that is a token, and starts no comment. -/
structure IsEdge (d : CodePoint) : Prop where
  word : d.isWord = false
  digit : d.isDigit = false
  point : d ≠ '.'
  hyphen : d ≠ '-'
  operator : ∀ c, doubleKind? c d = none

theorem isEdge_semicolon : IsEdge (.char ';') where
  word := by decide
  digit := by decide
  point := by decide
  hyphen := by decide
  operator c := by
    unfold doubleKind?
    split <;> first | rfl | contradiction

theorem isEdge_of_isBlank {d : CodePoint} (blank : d.isBlank = true) : IsEdge d where
  word := CodePoint.isWord_of_isBlank blank
  digit := CodePoint.isDigit_of_isBlank blank
  point := by rintro rfl; exact absurd blank (by decide)
  hyphen := by rintro rfl; exact absurd blank (by decide)
  operator c := by
    unfold doubleKind?
    split <;> first | rfl | exact absurd blank (by decide)

/-! ### Lexemes -/

section

variable {c d : CodePoint} {cs : Text}

theorem takeWhile_append_edge {p : CodePoint → Bool} (stops : p d = false ∨ ∃ e ∈ cs, p e = false)
    (rest : Text) : (cs ++ d :: rest).takeWhile p = cs.takeWhile p := by
  rw [List.takeWhile_append]
  split
  · rename_i whole
    have all := List.takeWhile_eq_self_iff.mp ((List.takeWhile_prefix p).eq_of_length whole)
    rcases stops with stops | ⟨e, member, stops⟩
    · rw [List.takeWhile_cons_of_neg (by simp [stops]), List.append_nil,
        List.takeWhile_eq_self_iff.mpr all]
    · exact absurd (all e member) (by simp [stops])
  · rfl

theorem quotedLength?_append {quote : CodePoint} (closes : quote ≠ '\\') {n : Nat}
    (closed : quotedLength? quote cs = some n) (more : Text) :
    quotedLength? quote (cs ++ more) = some n := by
  fun_induction quotedLength? quote cs generalizing n with
  | case1 | case2 | case5 => cases closed
  | case3 c cs inline ih =>
    obtain ⟨m, found, rfl⟩ := Option.map_eq_some_iff.mp closed
    simp only [List.cons_append, quotedLength?, if_neg inline, ih found, Option.map_some]
  | case4 c cs =>
    cases closed
    rw [List.cons_append, quotedLength?, if_pos rfl]
    rintro _ _ rfl
    exact absurd rfl closes
  | case6 c cs _ other plain ih =>
    obtain ⟨m, found, rfl⟩ := Option.map_eq_some_iff.mp closed
    rw [List.cons_append, quotedLength?_cons other plain, ih found]
    rfl

theorem numberLexeme_append (edge : IsEdge d) (cs rest : Text) :
    numberLexeme (cs ++ d :: rest) = numberLexeme cs := by
  have digits (cs : Text) :
      (cs ++ d :: rest).takeWhile CodePoint.isDigit = cs.takeWhile CodePoint.isDigit :=
    takeWhile_append_edge (.inl edge.digit) rest
  have after : (cs ++ d :: rest).dropWhile CodePoint.isDigit =
      cs.dropWhile CodePoint.isDigit ++ d :: rest := by
    rw [List.dropWhile_append]
    split
    · rename_i empty
      rw [List.isEmpty_iff.mp empty, List.dropWhile_cons_of_neg (by simp [edge.digit])]
      rfl
    · rfl
  unfold numberLexeme
  rw [digits, after]
  -- What follows the digits starts with a point or not, and goes on after it or not.
  match cs.dropWhile CodePoint.isDigit with
  | [] => simp [edge.point]
  | [e] =>
    by_cases point : e = '.'
    · subst point
      simp [edge.digit]
    · simp [point]
  | e :: f :: more =>
    by_cases point : e = '.'
    · subst point
      simp only [List.cons_append, digits]
    · simp [point]

theorem doubleKind?_append (edge : IsEdge d) (c : CodePoint) (cs rest : Text) :
    (cs ++ d :: rest).head?.bind (doubleKind? c) = cs.head?.bind (doubleKind? c) := by
  cases cs with
  | nil => exact edge.operator c
  | cons e cs => rfl

theorem head?_hyphen_append (edge : IsEdge d) (cs rest : Text) :
    (cs ++ d :: rest).head? = some (.char '-') ↔ cs.head? = some (.char '-') := by
  cases cs with
  | nil => simp [edge.hyphen]
  | cons e cs => rfl

/-- A lexeme ends before a code point that goes on with none, unless it is a run of blanks, a
comment that goes on to the end or a quoted text that is closed there. -/
theorem lexeme_append_of_quoted (edge : IsEdge d) {rest : Text}
    (quoted : c = '\'' ∨ c = '"' → quotedLength? c (cs ++ d :: rest) = quotedLength? c cs)
    (solid : c.isBlank = true → d.isBlank = false ∨ ∃ e ∈ cs, e.isBlank = false)
    (closed : c = '-' → cs.head? = some (.char '-') → d = '\n' ∨ .char '\n' ∈ cs) :
    lexeme c (cs ++ d :: rest) = lexeme c cs := by
  -- Each branch of the scan in turn: it stops within the front, or at the edge.
  unfold lexeme
  simp only [doubleKind?_append edge c cs rest, head?_hyphen_append edge cs rest]
  split
  · rename_i blank
    rw [takeWhile_append_edge (solid blank)]
  split
  · rename_i comment
    have ends : (d != .char '\n') = false ∨ ∃ e ∈ cs, (e != .char '\n') = false := by
      rcases closed comment.1 comment.2 with rfl | member
      · exact .inl (by decide)
      · exact .inr ⟨_, member, by decide⟩
    rw [takeWhile_append_edge ends]
  split
  · rfl
  · rfl
  split
  · exact numberLexeme_append edge cs rest
  split
  · rename_i quote
    rw [quoted quote]
  split
  · rw [takeWhile_append_edge (.inl edge.word)]
  · rfl

theorem lexeme_append (edge : IsEdge d) (lexed : (lexeme c cs).kind ≠ some .stray)
    (solid : c.isBlank = true → d.isBlank = false ∨ ∃ e ∈ cs, e.isBlank = false)
    (closed : c = '-' → cs.head? = some (.char '-') → d = '\n' ∨ .char '\n' ∈ cs) (rest : Text) :
    lexeme c (cs ++ d :: rest) = lexeme c cs := by
  refine lexeme_append_of_quoted edge (fun quote => ?_) solid closed
  cases found : quotedLength? c cs with
  | none => exact absurd (by rw [lexeme_quote quote, found]) lexed
  | some n => exact quotedLength?_append (quote_apart quote).1 found _

end

/-! ### Comments at the end -/

theorem scanFrom_comment (p : Position) {inline : Text} (unended : .char '\n' ∉ inline)
    {rest : Text} (edge : ∀ c ∈ rest.head?, c = '\n') :
    scanFrom p 0 (.char '-' :: .char '-' :: inline ++ rest) =
      scanFrom (p.after (.char '-' :: .char '-' :: inline)) 0 rest := by
  have whole : (inline ++ rest).takeWhile (· != .char '\n') = inline := by
    have stop : rest.takeWhile (· != .char '\n') = [] := by
      cases rest with
      | nil => rfl
      | cons c cs => simp [edge c rfl]
    rw [List.takeWhile_append_of_pos, stop, List.append_nil]
    intro c member
    simpa using fun same : c = .char '\n' => unended (same ▸ member)
  apply scanFrom_lexeme p (.char '-') (.char '-' :: inline) rest none
  rw [lexeme, if_neg (by decide), if_pos ⟨rfl, rfl⟩, List.cons_append,
    List.takeWhile_cons_of_pos (by decide), whole, Nat.add_comm]

theorem scanFrom_openComment (p : Position) {inline : Text} (unended : .char '\n' ∉ inline) :
    ∃ stop : Token, scanFrom p 0 (.char '-' :: .char '-' :: inline) = [stop] ∧
      stop.kind = .stop := by
  have scanned : scanFrom p 0 (.char '-' :: .char '-' :: inline ++ []) = _ :=
    scanFrom_comment p unended (by simp)
  rw [List.append_nil] at scanned
  rw [scanned]
  exact ⟨_, rfl, rfl⟩

/-- Whether a text ends in a comment, which starts where all its tokens are over. -/
def EndsInComment (source : Text) : Prop :=
  ∃ front inline, source = front ++ .char '-' :: .char '-' :: inline ∧ .char '\n' ∉ inline ∧
    ∀ t ∈ scan source, t.kind ≠ .stop → t.stop ≤ front.length

/-- Whether a text of which `skip` code points belong to a lexeme ends in a comment, wherever the
text stands. -/
def OpensComment (skip : Nat) (source : Text) : Prop :=
  ∃ front inline, source = front ++ .char '-' :: .char '-' :: inline ∧ .char '\n' ∉ inline ∧
    skip ≤ front.length ∧
    ∀ p, ∀ t ∈ scanFrom p skip source, t.kind ≠ .stop → t.stop ≤ p.offset + front.length

namespace OpensComment

variable {c : CodePoint} {cs : Text} {skip : Nat}

theorem endsInComment {source : Text} (opens : OpensComment 0 source) : EndsInComment source := by
  obtain ⟨front, inline, same, last, -, stops⟩ := opens
  refine ⟨front, inline, same, last, fun t member real => ?_⟩
  have stop := stops .start t member real
  rwa [show Position.start.offset = 0 from rfl, Nat.zero_add] at stop

theorem comment {inline : Text} (unended : .char '\n' ∉ inline) :
    OpensComment 0 (.char '-' :: .char '-' :: inline) := by
  refine ⟨[], inline, rfl, unended, Nat.le_refl 0, fun p t member real => ?_⟩
  obtain ⟨stop, scanned, ends⟩ := scanFrom_openComment p unended
  rw [scanned, List.mem_singleton] at member
  exact absurd (member ▸ ends) real

theorem cons {before : Nat} (opens : OpensComment skip cs) (bounded : before ≤ skip + 1)
    (each : ∀ p, ∀ t ∈ scanFrom p before (c :: cs),
      t ∈ scanFrom (p.advance c) skip cs ∨ t.stop ≤ p.offset + (skip + 1)) :
    OpensComment before (c :: cs) := by
  obtain ⟨front, inline, same, last, bound, stops⟩ := opens
  refine ⟨c :: front, inline, by rw [same]; rfl, last, ?_, fun p t member real => ?_⟩
  · rw [List.length_cons]
    omega
  rw [List.length_cons]
  rcases each p t member with behind | within
  · have stop := stops _ t behind real
    rw [Position.advance_offset] at stop
    omega
  · omega

theorem lexed (opens : OpensComment ((lexeme c cs).length - 1) cs) : OpensComment 0 (c :: cs) := by
  have positive := (lexeme_length c cs).1
  refine opens.cons (Nat.zero_le _) fun p t member => ?_
  rw [scanFrom] at member
  split at member
  · exact .inl member
  · rcases List.mem_cons.mp member with rfl | member
    · exact .inr (by dsimp only; omega)
    · exact .inl member

end OpensComment

/-! ### Whole texts -/

theorem scanFrom_ne_nil (p : Position) (skip : Nat) (t : Text) : scanFrom p skip t ≠ [] := by
  obtain ⟨inner, stop, scanned, -⟩ := scanFrom_inner p skip t
  simp [scanned]

theorem mem_scanFrom_lexeme {p : Position} {c : CodePoint} {cs : Text} {t : Token}
    (member : t ∈ scanFrom (p.advance c) ((lexeme c cs).length - 1) cs) :
    t ∈ scanFrom p 0 (c :: cs) := by
  rw [scanFrom]
  split
  · exact member
  · exact List.mem_cons_of_mem _ member

theorem exists_front_of_lexeme {c : CodePoint} {cs more : Text}
    (same : lexeme c (cs ++ more) = lexeme c cs) (p : Position) :
    ∃ front, scanFrom p 0 (c :: cs) =
        front ++ scanFrom (p.advance c) ((lexeme c cs).length - 1) cs ∧
      scanFrom p 0 (c :: (cs ++ more)) =
        front ++ scanFrom (p.advance c) ((lexeme c cs).length - 1) (cs ++ more) := by
  have within := (lexeme_length c cs).2
  have whole : (c :: (cs ++ more)).take (lexeme c cs).length =
      (c :: cs).take (lexeme c cs).length := by
    rw [← List.cons_append]
    exact List.take_append_of_le_length (by rw [List.length_cons]; omega)
  rw [scanFrom, scanFrom]
  simp only [same, whole]
  split
  · exact ⟨[], rfl, rfl⟩
  · exact ⟨[_], rfl, rfl⟩

/-- The tokens of a text stay as they are when it goes on with a code point that goes on with none,
unless it ends in a comment that the code point does not end. -/
theorem scanFrom_append {d : CodePoint} (edge : IsEdge d) (rest : Text) {t : Text} {skip : Nat}
    (p : Position) (bounded : skip ≤ t.length)
    (lexed : ∀ token ∈ scanFrom p skip t, token.kind ≠ .stray)
    (closed : d = '\n' ∨ ¬OpensComment skip t) :
    scanFrom p skip (t ++ d :: rest) =
      (scanFrom p skip t).dropLast ++ scanFrom (p.after t) 0 (d :: rest) := by
  induction t generalizing p skip with
  | nil =>
    rw [Nat.le_zero.mp bounded]
    rfl
  | cons c cs ih =>
    cases skip with
    | succ skip =>
      exact ih (p.advance c) (Nat.le_of_succ_le_succ bounded) lexed
        (closed.imp_right (mt fun opens =>
          opens.cons (Nat.le_refl _) fun _ _ member => .inl member))
    | zero =>
      by_cases blank : c.isBlank = true
      · -- The blanks at the end of the text are one lexeme with those that follow it.
        have alone := fun p more => scanFrom_blank_cons p blank more
        rw [List.cons_append, alone, alone, ih (p.advance c) (Nat.zero_le _) (alone p cs ▸ lexed)]
        · rfl
        · exact closed.imp_right (mt fun opens => opens.cons (Nat.zero_le _) fun p token member =>
            .inl (alone p cs ▸ member))
      -- The lexeme here is the same where the text goes on, and what is behind it goes by induction.
      have within := (lexeme_length c cs).2
      have same : lexeme c (cs ++ d :: rest) = lexeme c cs := by
        refine lexeme_append edge ?_ (fun solid => absurd solid blank) ?_ rest
        · intro stray
          rw [scanFrom] at lexed
          simp only [stray] at lexed
          exact lexed _ List.mem_cons_self rfl
        · rintro rfl starts
          refine closed.imp_right fun shut => ?_
          by_contra unended
          obtain ⟨inline, rfl⟩ := List.head?_eq_some_iff.mp starts
          exact shut (.comment fun member => unended (List.mem_cons_of_mem _ member))
      have behind : ∀ token ∈ scanFrom (p.advance c) ((lexeme c cs).length - 1) cs,
          token.kind ≠ .stray := fun token member => lexed token (mem_scanFrom_lexeme member)
      have tail := ih (p.advance c) (by omega) behind (closed.imp_right (mt OpensComment.lexed))
      obtain ⟨front, here, there⟩ := exists_front_of_lexeme same p
      rw [List.cons_append, here, there, tail,
        List.dropLast_append_of_ne_nil (scanFrom_ne_nil _ _ _), List.append_assoc]
      rfl

end SqlConsole.Token
