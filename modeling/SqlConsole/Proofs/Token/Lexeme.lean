import SqlConsole.Token.Scan
import SqlConsole.Proofs.Text.Class
import SqlConsole.Proofs.Text.Trim

/-!
# Scanning lexeme by lexeme

A text that starts with a lexeme scans to its token and the tokens of what follows
(`scanFrom_lexeme`, `scanFrom_blank`), and a scan ends with the one token that marks the end
(`scanFrom_inner`). Where the text stands makes no difference to the kinds and the values
(`scanFrom_bare`).
-/

namespace SqlConsole

def Position.after (p : Position) (t : Text) : Position := t.foldl Position.advance p

theorem Position.after_append (p : Position) (a b : Text) :
    p.after (a ++ b) = (p.after a).after b := List.foldl_append

theorem Position.advance_offset (p : Position) (c : CodePoint) :
    (p.advance c).offset = p.offset + 1 := by
  unfold advance
  split <;> rfl

theorem Position.after_offset (p : Position) (t : Text) :
    (p.after t).offset = p.offset + t.length := by
  induction t generalizing p with
  | nil => rfl
  | cons c cs ih =>
    rw [after, List.foldl_cons, ← after, ih, advance_offset, List.length_cons]
    omega

theorem offset_after_start (t : Text) : (Position.start.after t).offset = t.length := by
  rw [Position.after_offset]
  exact Nat.zero_add _

namespace Token

def placed (p : Position) (kind : TokenKind) (lexeme : Text) : Token :=
  ⟨kind, valueOf kind lexeme, p.line, p.column, p.offset, p.offset + lexeme.length⟩

/-! ### Lexemes one after another -/

theorem scanFrom_skip (p : Position) (n : Nat) (t rest : Text) (length : t.length = n) :
    scanFrom p n (t ++ rest) = scanFrom (p.after t) 0 rest := by
  induction t generalizing p n with
  | nil =>
    subst length
    rfl
  | cons c cs ih =>
    subst length
    rw [List.cons_append, List.length_cons, scanFrom, ih _ _ rfl]
    rfl

theorem scanFrom_lexeme (p : Position) (c : CodePoint) (cs rest : Text) (kind : Option TokenKind)
    (found : lexeme c (cs ++ rest) = ⟨kind, cs.length + 1⟩) :
    scanFrom p 0 (c :: cs ++ rest) =
      (kind.map fun kind => placed p kind (c :: cs)).toList ++
        scanFrom (p.after (c :: cs)) 0 rest := by
  have skipped : scanFrom (p.advance c) (cs.length + 1 - 1) (cs ++ rest) =
      scanFrom (p.after (c :: cs)) 0 rest :=
    scanFrom_skip _ _ cs rest rfl
  rw [List.cons_append, scanFrom]
  simp only [found, skipped]
  cases kind with
  | none => rfl
  | some kind =>
    have whole : (c :: (cs ++ rest)).take (cs.length + 1) = c :: cs := by
      rw [List.take_succ_cons, List.take_left]
    simp only [whole, Option.map_some, Option.toList_some, List.singleton_append, placed,
      List.length_cons]

theorem lexeme_blank {c : CodePoint} (blank : c.isBlank = true) (cs : Text) :
    lexeme c cs = ⟨none, (cs.takeWhile CodePoint.isBlank).length + 1⟩ := by
  rw [lexeme, if_pos blank, Nat.add_comm]

theorem scanFrom_blank (p : Position) {b : Text} (blank : b.AllBlank) (rest : Text) :
    scanFrom p 0 (b ++ rest) = scanFrom (p.after b) 0 rest := by
  -- Blanks in front of `rest` are one lexeme with those of `b`, so both are scanned together.
  have run : ∀ (q : Position) (a : Text), a.AllBlank →
      scanFrom q 0 (a ++ rest.dropWhile CodePoint.isBlank) =
        scanFrom (q.after a) 0 (rest.dropWhile CodePoint.isBlank) := by
    intro q a allBlank
    cases a with
    | nil => rfl
    | cons c cs =>
      apply scanFrom_lexeme q c cs _ none
      have edge : (rest.dropWhile CodePoint.isBlank).takeWhile CodePoint.isBlank = [] := by
        rw [List.takeWhile_eq_nil_iff]
        exact List.dropWhile_get_zero_not _ rest
      rw [lexeme_blank (allBlank c List.mem_cons_self),
        List.takeWhile_append_of_pos fun d member => allBlank d (List.mem_cons_of_mem _ member),
        edge, List.append_nil]
  have front : Text.AllBlank (rest.takeWhile CodePoint.isBlank) :=
    fun _ member => List.mem_takeWhile_imp member
  have cut : rest = rest.takeWhile CodePoint.isBlank ++ rest.dropWhile CodePoint.isBlank :=
    List.takeWhile_append_dropWhile.symm
  calc scanFrom p 0 (b ++ rest)
      = scanFrom p 0 ((b ++ rest.takeWhile CodePoint.isBlank) ++
          rest.dropWhile CodePoint.isBlank) := by rw [List.append_assoc, ← cut]
    _ = scanFrom ((p.after b).after (rest.takeWhile CodePoint.isBlank)) 0
          (rest.dropWhile CodePoint.isBlank) := by
        rw [run p _ (blank.append front), Position.after_append]
    _ = scanFrom (p.after b) 0 rest := by rw [← run (p.after b) _ front, ← cut]

theorem scanFrom_blank_cons (p : Position) {c : CodePoint} (blank : c.isBlank = true)
    (rest : Text) : scanFrom p 0 (c :: rest) = scanFrom (p.advance c) 0 rest :=
  scanFrom_blank p (b := [c]) (by simpa [Text.AllBlank] using blank) rest

/-! ### Tokens without their places -/

def bare (t : Token) : Token := ⟨t.kind, t.value, 0, 0, 0, 0⟩

theorem bare_eq_iff {t u : Token} : t.bare = u.bare ↔ t.kind = u.kind ∧ t.value = u.value := by
  simp [bare]

theorem scanFrom_bare (p q : Position) (skip : Nat) (t : Text) :
    (scanFrom p skip t).map bare = (scanFrom q skip t).map bare := by
  fun_induction scanFrom p skip t generalizing q with
  | case1 => simp [scanFrom, bare]
  | case2 p skip c cs ih => exact ih (q.advance c)
  | case3 p c cs found rest blank ih =>
    rw [scanFrom]
    simp only [found] at blank
    simp only [blank]
    exact ih (q.advance c)
  | case4 p c cs found rest kind lexed ih =>
    rw [scanFrom]
    simp only [found] at lexed
    simp only [lexed, List.map_cons]
    exact congrArg _ (ih (q.advance c))

theorem map_bare_kind (tokens : List Token) : (tokens.map bare).map kind = tokens.map kind := by
  rw [List.map_map]
  rfl

theorem scanFrom_kinds (p q : Position) (skip : Nat) (t : Text) :
    (scanFrom p skip t).map kind = (scanFrom q skip t).map kind := by
  rw [← map_bare_kind, scanFrom_bare p q, map_bare_kind]

/-! ### The end -/

theorem wordKind_ne_stray (word : Text) : wordKind word ≠ .stray := by
  unfold wordKind
  split <;> simp

theorem wordKind_ne_stop (word : Text) : wordKind word ≠ .stop := by
  unfold wordKind
  split <;> simp

theorem singleKind?_ne_stop (c : CodePoint) : singleKind? c ≠ some .stop := by
  unfold singleKind?
  split <;> simp

theorem doubleKind?_ne_stop (c d : CodePoint) : doubleKind? c d ≠ some .stop := by
  unfold doubleKind?
  split <;> simp

theorem numberLexeme_kind (cs : Text) : (numberLexeme cs).kind ≠ some .stop := by
  unfold numberLexeme
  dsimp only
  split
  · split <;> simp
  · simp

theorem lexeme_kind_ne_stop (c : CodePoint) (cs : Text) : (lexeme c cs).kind ≠ some .stop := by
  have double : cs.head?.bind (doubleKind? c) ≠ some .stop := by
    cases cs with
    | nil => simp
    | cons d cs => exact doubleKind?_ne_stop c d
  unfold lexeme
  split
  · simp
  split
  · simp
  split
  · rename_i kind _ found
    rintro ⟨⟩
    exact double found
  · rename_i kind _ found
    rintro ⟨⟩
    exact singleKind?_ne_stop c found
  · split
    · exact numberLexeme_kind cs
    split
    · split <;> simp
    split
    · simp [wordKind_ne_stop]
    · simp

theorem scanFrom_inner (p : Position) (skip : Nat) (source : Text) :
    ∃ inner stop, scanFrom p skip source = inner ++ [stop] ∧ stop.kind = .stop ∧
      ∀ t ∈ inner, t.kind ≠ .stop := by
  fun_induction scanFrom p skip source with
  | case1 p skip => exact ⟨[], _, rfl, rfl, by simp⟩
  | case2 p c cs skip ih => exact ih
  | case3 p c cs found rest blank ih => exact ih
  | case4 p c cs found rest kind lexed ih =>
    obtain ⟨inner, stop, scanned, ends, free⟩ := ih
    refine ⟨_ :: inner, stop, congrArg _ scanned, ends, ?_⟩
    intro t member
    rcases List.mem_cons.mp member with rfl | member
    · rintro rfl
      exact lexeme_kind_ne_stop c cs lexed
    · exact free t member

end Token

end SqlConsole
