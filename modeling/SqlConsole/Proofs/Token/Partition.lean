import SqlConsole.Proofs.Token.Numbers
import SqlConsole.Proofs.Token.Place
import Mathlib.Data.List.Chain

/-!
# Tokens partition their text

A text is cut into the lexemes of its tokens with only blanks and comments between them
(`cut_scan`), and each token tells where in the text its lexeme stands (`scan_partitions`).
-/

namespace SqlConsole.Token

/-! ### What is left out -/

/-- Whether a text in front of `after` holds only blanks and comments. A comment goes on to a
newline or to the end. -/
inductive IsSkipped (after : Text) : Text → Prop
  | nil : IsSkipped after []
  | blank {c : CodePoint} {t : Text} (blank : c.isBlank = true) (rest : IsSkipped after t) :
    IsSkipped after (c :: t)
  | comment {inline t : Text} (within : .char '\n' ∉ inline)
    (edge : ∀ c ∈ (t ++ after).head?, c = '\n') (rest : IsSkipped after t) :
    IsSkipped after (.char '-' :: .char '-' :: (inline ++ t))

namespace IsSkipped

theorem append {t u after : Text} (first : IsSkipped (u ++ after) t)
    (second : IsSkipped after u) : IsSkipped after (t ++ u) := by
  induction first with
  | nil => exact second
  | blank blank _ ih => exact .blank blank ih
  | comment within edge _ ih =>
    rw [List.cons_append, List.cons_append, List.append_assoc]
    exact .comment within (by rwa [List.append_assoc]) ih

theorem of_allBlank {t : Text} (blank : t.AllBlank) (after : Text) : IsSkipped after t := by
  induction t with
  | nil => exact .nil
  | cons c t ih =>
    exact .blank (blank c List.mem_cons_self) (ih fun d member => blank d (.tail c member))

end IsSkipped

/-! ### Lengths of lexemes -/

theorem quotedLength?_le {quote : CodePoint} {cs : Text} {n : Nat}
    (closed : quotedLength? quote cs = some n) : n ≤ cs.length := by
  fun_induction quotedLength? quote cs generalizing n with
  | case1 => cases closed
  | case2 => cases closed
  | case3 c cs inline ih =>
    obtain ⟨m, found, rfl⟩ := Option.map_eq_some_iff.mp closed
    have shorter := ih found
    simp only [List.length_cons]
    omega
  | case4 =>
    cases closed
    simp
  | case5 => cases closed
  | case6 c cs _ other plain ih =>
    obtain ⟨m, found, rfl⟩ := Option.map_eq_some_iff.mp closed
    have shorter := ih found
    simp only [List.length_cons]
    omega

theorem length_takeWhile_le (p : CodePoint → Bool) (cs : Text) :
    (cs.takeWhile p).length ≤ cs.length := (List.takeWhile_prefix p).length_le

theorem lexeme_length (c : CodePoint) (cs : Text) :
    1 ≤ (lexeme c cs).length ∧ (lexeme c cs).length ≤ 1 + cs.length := by
  unfold lexeme
  split
  · have := length_takeWhile_le CodePoint.isBlank cs
    dsimp only
    omega
  split
  · have := length_takeWhile_le (· != .char '\n') cs
    dsimp only
    omega
  split
  · rename_i found
    obtain ⟨d, head, -⟩ := Option.bind_eq_some_iff.mp found
    obtain ⟨rest, rfl⟩ := List.head?_eq_some_iff.mp head
    simp only [List.length_cons]
    omega
  · simp
  split
  · rcases numberLexeme_cases cs with
      ⟨digits, rest, rfl, -, same⟩ | ⟨digits, part, rest, rfl, -, -, -, same⟩
    · rw [same]
      simp only [List.length_append]
      omega
    · rw [same]
      simp only [List.length_append, List.length_cons]
      omega
  split
  · split
    · rename_i n closed
      have := quotedLength?_le closed
      dsimp only
      omega
    · simp
  split
  · have := length_takeWhile_le CodePoint.isWord cs
    dsimp only
    omega
  · simp

/-! ### Lexemes without a token -/

theorem cut_of_length (p : CodePoint → Bool) (front rest : Text)
    (length : front.length = ((front ++ rest).takeWhile p).length) :
    front = (front ++ rest).takeWhile p ∧ rest = (front ++ rest).dropWhile p :=
  List.append_inj List.takeWhile_append_dropWhile.symm length

theorem isSkipped_of_lexeme {c : CodePoint} {front rest : Text}
    (found : lexeme c (front ++ rest) = ⟨none, front.length + 1⟩) :
    IsSkipped rest (c :: front) := by
  unfold lexeme at found
  split at found
  · rename_i blank
    obtain ⟨run, -⟩ := cut_of_length CodePoint.isBlank front rest
      (by simp only [Lexeme.mk.injEq, true_and] at found; omega)
    refine .of_allBlank (List.forall_mem_cons.mpr ⟨blank, fun d member => ?_⟩) rest
    rw [run] at member
    exact List.mem_takeWhile_imp member
  split at found
  · rename_i comment
    obtain ⟨run, after⟩ := cut_of_length (· != .char '\n') front rest
      (by simp only [Lexeme.mk.injEq, true_and] at found; omega)
    have within : .char '\n' ∉ front := by
      intro member
      rw [run] at member
      exact absurd (List.mem_takeWhile_imp member) (by decide)
    have edge : ∀ d ∈ rest.head?, d = '\n' := by
      intro d head
      have stopped := List.head?_dropWhile_not (· != .char '\n') (front ++ rest)
      rw [← after, Option.mem_def.mp head] at stopped
      simpa using stopped
    obtain ⟨inline, rfl⟩ : ∃ inline, front = .char '-' :: inline := by
      obtain ⟨rest', same⟩ := List.head?_eq_some_iff.mp comment.2
      rw [same, List.takeWhile_cons_of_pos (by decide)] at run
      exact ⟨_, run⟩
    have whole : IsSkipped rest (.char '-' :: .char '-' :: (inline ++ [])) :=
      .comment (fun member => within (.tail _ member)) edge .nil
    rw [List.append_nil] at whole
    rwa [comment.1]
  -- All other lexemes give a token.
  split at found
  · cases found
  · cases found
  split at found
  · rcases numberLexeme_cases (front ++ rest) with
      ⟨_, _, _, _, same⟩ | ⟨_, _, _, _, _, _, _, same⟩ <;> rw [same] at found <;> cases found
  split at found
  · split at found <;> cases found
  split at found <;> cases found

/-! ### Cutting a text -/

/-- Whether a text after `before` is cut into the lexemes of tokens and what is left out. -/
inductive Cut : (before rest : Text) → List Token → Prop
  | stop (before : Text) : Cut before [] [placed (Position.start.after before) .stop []]
  | skipped {before t rest : Text} {tokens : List Token} (skipped : IsSkipped rest t)
    (cut : Cut (before ++ t) rest tokens) : Cut before (t ++ rest) tokens
  | token {before lexeme rest : Text} {kind : TokenKind} {tokens : List Token}
    (inner : kind ≠ .stop) (present : lexeme ≠ []) (cut : Cut (before ++ lexeme) rest tokens) :
    Cut before (lexeme ++ rest) (placed (Position.start.after before) kind lexeme :: tokens)

theorem cut_scan (before rest : Text) :
    Cut before rest (scanFrom (Position.start.after before) 0 rest) := by
  induction length : rest.length using Nat.strongRecOn generalizing before rest with
  | ind n ih =>
    subst length
    cases rest with
    | nil => exact .stop before
    | cons c cs =>
      obtain ⟨positive, bounded⟩ := lexeme_length c cs
      obtain ⟨front, rest, rfl, length⟩ : ∃ front rest, cs = front ++ rest ∧
          front.length = (lexeme c cs).length - 1 :=
        ⟨cs.take ((lexeme c cs).length - 1), _, (List.take_append_drop _ cs).symm, by
          rw [List.length_take]; omega⟩
      have found : lexeme c (front ++ rest) =
          ⟨(lexeme c (front ++ rest)).kind, front.length + 1⟩ := by
        rw [length, Nat.sub_add_cancel positive]
      have shorter : rest.length < (c :: (front ++ rest)).length := by
        simp only [List.length_cons, List.length_append]
        omega
      have cut := ih rest.length shorter (before ++ c :: front) rest rfl
      rw [Position.after_append] at cut
      rw [← List.cons_append, scanFrom_lexeme _ _ _ _ _ found]
      cases given : (lexeme c (front ++ rest)).kind with
      | none =>
        rw [given] at found
        exact .skipped (isSkipped_of_lexeme found) cut
      | some kind =>
        refine .token ?_ (List.cons_ne_nil c front) cut
        rintro rfl
        exact lexeme_kind_ne_stop c _ given

namespace Cut

variable {before rest : Text} {tokens : List Token}

theorem placed_start (before : Text) (kind : TokenKind) (lexeme : Text) :
    (placed (Position.start.after before) kind lexeme).start = before.length :=
  offset_after_start before

theorem placed_stop (before : Text) (kind : TokenKind) (lexeme : Text) :
    (placed (Position.start.after before) kind lexeme).stop = (before ++ lexeme).length := by
  rw [List.length_append, ← offset_after_start before]
  rfl

theorem ends (cut : Cut before rest tokens) :
    ∃ inner stop, tokens = inner ++ [stop] ∧ stop.kind = .stop ∧
      stop.start = (before ++ rest).length ∧ stop.stop = (before ++ rest).length ∧
      ∀ t ∈ inner, t.kind ≠ .stop ∧ t.start < t.stop := by
  induction cut with
  | stop before =>
    exact ⟨[], _, rfl, rfl, by rw [placed_start, List.append_nil], placed_stop before _ [], by simp⟩
  | skipped _ _ ih => rwa [List.append_assoc] at ih
  | @token before lexeme rest kind tokens inner present _ ih =>
    obtain ⟨others, stop, same, last, start, finish, each⟩ := ih
    rw [List.append_assoc] at start finish
    refine ⟨_ :: others, stop, congrArg _ same, last, start, finish, ?_⟩
    have longer : 0 < lexeme.length := List.length_pos_iff.mpr present
    refine List.forall_mem_cons.mpr ⟨⟨inner, ?_⟩, each⟩
    rw [placed_start, placed_stop, List.length_append]
    omega

end Cut

/-! ### Places of tokens -/

/-- Whether the text between a place and a token is left out. -/
def SkipsTo (source : Text) (place : Nat) (t : Token) : Prop :=
  place ≤ t.start ∧ IsSkipped (source.drop t.start) (source.extract place t.start)

structure IsPlaced (source : Text) (t : Token) : Prop where
  line : t.line = 1 + (source.take t.start).count (.char '\n')
  column : (t.column : Int) = t.start - Text.lastNewline (source.take t.start)
  value : t.kind ≠ .text → t.value = source.extract t.start t.stop

theorem valueOf_lexeme {kind : TokenKind} (plain : kind ≠ .text) (lexeme : Text) :
    valueOf kind lexeme = lexeme := by
  unfold valueOf
  split
  · exact absurd rfl plain
  · rfl

theorem isPlaced_placed (before lexeme rest : Text) (kind : TokenKind) :
    IsPlaced (before ++ (lexeme ++ rest)) (placed (Position.start.after before) kind lexeme) := by
  have start := Cut.placed_start before kind lexeme
  have front : (before ++ (lexeme ++ rest)).take before.length = before := List.take_left
  constructor
  · rw [start, front]
    exact Position.line_after_start before
  · rw [start, front]
    exact Position.column_after_start before
  · intro plain
    have value : (placed (Position.start.after before) kind lexeme).value = lexeme :=
      valueOf_lexeme plain lexeme
    rw [start, Cut.placed_stop, value]
    simp

namespace Cut

variable {before rest : Text} {tokens : List Token}

theorem isPlaced (cut : Cut before rest tokens) : ∀ t ∈ tokens, t.IsPlaced (before ++ rest) := by
  induction cut with
  | stop before => simpa using isPlaced_placed before [] [] .stop
  | skipped _ _ ih => rwa [List.append_assoc] at ih
  | token _ _ _ ih =>
    rw [List.append_assoc] at ih
    exact List.forall_mem_cons.mpr ⟨isPlaced_placed _ _ _ _, ih⟩

theorem value_ne_nil (cut : Cut before rest tokens) :
    ∀ t ∈ tokens, t.kind ≠ .stop → t.kind ≠ .text → t.value ≠ [] := by
  induction cut with
  | stop before => simp [placed]
  | skipped _ _ ih => exact ih
  | @token before lexeme rest kind tokens _ present _ ih =>
    refine List.forall_mem_cons.mpr ⟨fun _ plain => ?_, ih⟩
    rwa [show (placed _ kind lexeme).value = lexeme from valueOf_lexeme plain lexeme]

theorem skipsTo_placed (source before : Text) (kind : TokenKind) (lexeme : Text) :
    SkipsTo source before.length (placed (Position.start.after before) kind lexeme) := by
  unfold SkipsTo
  rw [placed_start, List.extract_eq_take_drop, Nat.sub_self, List.take_zero]
  exact ⟨Nat.le_refl _, .nil⟩

theorem skipsTo_append {before t rest : Text} {next : Token} (skipped : IsSkipped rest t)
    (skips : SkipsTo (before ++ (t ++ rest)) (before ++ t).length next) :
    SkipsTo (before ++ (t ++ rest)) before.length next := by
  obtain ⟨later, between⟩ := skips
  obtain ⟨gap, start⟩ : ∃ gap, next.start = (before ++ t).length + gap :=
    ⟨_, (Nat.add_sub_of_le later).symm⟩
  have after : (before ++ (t ++ rest)).drop next.start = rest.drop gap := by
    rw [start, ← List.append_assoc, List.drop_length_add_append]
  have right : (before ++ (t ++ rest)).extract (before ++ t).length next.start = rest.take gap := by
    rw [List.extract_eq_take_drop, start, Nat.add_sub_cancel_left, ← List.append_assoc,
      List.drop_left]
  have whole : (before ++ (t ++ rest)).extract before.length next.start = t ++ rest.take gap := by
    have length : next.start - before.length = t.length + gap := by
      rw [List.length_append] at start
      omega
    rw [List.extract_eq_take_drop, length, List.drop_left, List.take_length_add_append]
  rw [after, right] at between
  refine ⟨?_, ?_⟩
  · rw [List.length_append] at later
    omega
  · rw [after, whole]
    exact IsSkipped.append (by rwa [List.take_append_drop]) between

theorem skipsTo (cut : Cut before rest tokens) :
    (∀ t ∈ tokens.head?, SkipsTo (before ++ rest) before.length t) ∧
      tokens.IsChain fun t next => SkipsTo (before ++ rest) t.stop next := by
  induction cut with
  | stop before =>
    refine ⟨?_, .singleton _⟩
    rintro _ ⟨⟩
    exact skipsTo_placed _ before _ []
  | skipped skipped _ ih =>
    rw [List.append_assoc] at ih
    exact ⟨fun t head => skipsTo_append skipped (ih.1 t head), ih.2⟩
  | @token before lexeme rest kind tokens _ _ _ ih =>
    rw [List.append_assoc] at ih
    refine ⟨?_, List.isChain_cons.mpr ⟨?_, ih.2⟩⟩
    · rintro _ ⟨⟩
      exact skipsTo_placed _ before kind lexeme
    · intro next head
      rw [placed_stop]
      exact ih.1 next head

end Cut

/-- The tokens of a text stand one after another with only blanks and comments before and between
them, the last one at its end, and each tells its line, its column and its source text. -/
theorem scan_partitions (source : Text) :
    ∃ inner stop, scan source = inner ++ [stop] ∧
      stop.kind = .stop ∧ stop.start = source.length ∧ stop.stop = source.length ∧
      (∀ t ∈ inner, t.kind ≠ .stop ∧ t.start < t.stop) ∧
      (∀ t ∈ (scan source).head?, SkipsTo source 0 t) ∧
      (scan source).IsChain (fun t next => SkipsTo source t.stop next) ∧
      ∀ t ∈ scan source, t.IsPlaced source := by
  have cut : Cut [] source (scan source) := cut_scan [] source
  obtain ⟨inner, stop, same, last, start, finish, each⟩ := cut.ends
  obtain ⟨first, chain⟩ := cut.skipsTo
  exact ⟨inner, stop, same, last, start, finish, each, first, chain, cut.isPlaced⟩

example : (scan "'a\n' -- b\n c").map (fun t => (t.kind, t.line, t.column, t.start, t.stop)) =
    [(.text, 1, 1, 0, 4), (.identifier, 3, 2, 11, 12), (.stop, 3, 3, 12, 12)] := by
  decide +kernel

end SqlConsole.Token
