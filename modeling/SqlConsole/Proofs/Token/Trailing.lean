import SqlConsole.Proofs.Token.First

/-!
# Blanks behind a text

Blanks behind a text change none of its tokens but the last, which marks the end
(`scanFrom_append_allBlank`).
-/

namespace SqlConsole.Token

variable {c : CodePoint} {cs e : Text}

theorem quotedLength?_append_allBlank {quote : CodePoint} (quotes : quote = '\'' ∨ quote = '"')
    (blank : e.AllBlank) (unclosed : quotedLength? quote cs = none) :
    quotedLength? quote (cs ++ e) = none := by
  obtain ⟨closes, oneLine⟩ := quote_apart quotes
  cases closed : quotedLength? quote (cs ++ e) with
  | none => rfl
  | some n =>
    obtain ⟨inner, value, rest, same, stands, -⟩ := exists_standsFor closed
    rcases List.append_eq_append_iff.mp same with ⟨front, -, behind⟩ | ⟨front, whole, behind⟩
    · have solid := blank quote (by simp [behind])
      rcases quotes with rfl | rfl <;> exact absurd solid (by decide)
    · cases front with
      | nil =>
        have solid := blank quote (by rw [List.nil_append] at behind; simp [← behind])
        rcases quotes with rfl | rfl <;> exact absurd solid (by decide)
      | cons d front =>
        obtain ⟨rfl, -⟩ := List.cons.inj behind
        rw [whole, stands.quotedLength?_eq closes oneLine] at unclosed
        cases unclosed

theorem lexeme_append_allBlank (blank : e.AllBlank) (solid : c.isBlank = false)
    (closed : c = '-' → cs.head? = some (.char '-') → .char '\n' ∈ cs) :
    lexeme c (cs ++ e) = lexeme c cs := by
  cases e with
  | nil => rw [List.append_nil]
  | cons d ds =>
    have edge := isEdge_of_isBlank (blank d List.mem_cons_self)
    refine lexeme_append_of_quoted edge (fun quote => ?_) (by simp [solid])
      (fun hyphen next => .inr (closed hyphen next))
    cases found : quotedLength? c cs with
    | none => exact quotedLength?_append_allBlank quote blank found
    | some n => exact quotedLength?_append (quote_apart quote).1 found _

theorem scanFrom_openComment_append (blank : e.AllBlank) (p : Position) {inline : Text}
    (unended : .char '\n' ∉ inline) :
    ∃ stop : Token, scanFrom p 0 (.char '-' :: .char '-' :: inline ++ e) = [stop] ∧
      stop.kind = .stop := by
  -- The comment takes the blanks along that are on its line.
  have cut : e = e.takeWhile (· != .char '\n') ++ e.dropWhile (· != .char '\n') :=
    List.takeWhile_append_dropWhile.symm
  have within : .char '\n' ∉ inline ++ e.takeWhile (· != .char '\n') := by
    intro member
    rcases List.mem_append.mp member with front | behind
    · exact unended front
    · exact absurd (List.mem_takeWhile_imp behind) (by decide)
  have edge : ∀ d ∈ (e.dropWhile (· != .char '\n')).head?, d = '\n' := by
    intro d head
    have stopped := List.head?_dropWhile_not (· != .char '\n') e
    rw [Option.mem_def.mp head] at stopped
    simpa using stopped
  have left : Text.AllBlank (e.dropWhile (· != .char '\n')) :=
    fun d member => blank d (List.dropWhile_sublist _ |>.subset member)
  have scanned := scanFrom_comment p within edge
  have last := scanFrom_blank (p.after (.char '-' :: .char '-' ::
    (inline ++ e.takeWhile (· != .char '\n')))) left []
  rw [List.append_nil] at last
  rw [← List.cons_append, ← List.cons_append, List.append_assoc, ← cut] at scanned
  rw [scanned, List.cons_append, List.cons_append, last]
  exact ⟨_, rfl, rfl⟩

theorem scanFrom_append_allBlank (blank : e.AllBlank) {t : Text} {skip : Nat} (p : Position)
    (bounded : skip ≤ t.length) :
    ∃ inner stop stop', scanFrom p skip t = inner ++ [stop] ∧
      scanFrom p skip (t ++ e) = inner ++ [stop'] ∧ stop.kind = .stop ∧ stop'.kind = .stop := by
  induction t generalizing p skip with
  | nil =>
    have last := scanFrom_blank p blank []
    rw [List.append_nil] at last
    rw [Nat.le_zero.mp bounded, List.nil_append, last]
    exact ⟨[], _, _, rfl, rfl, rfl, rfl⟩
  | cons c cs ih =>
    cases skip with
    | succ skip => exact ih (p.advance c) (Nat.le_of_succ_le_succ bounded)
    | zero =>
      by_cases first : c.isBlank = true
      · rw [List.cons_append, scanFrom_blank_cons p first, scanFrom_blank_cons p first]
        exact ih (p.advance c) (Nat.zero_le _)
      by_cases opens : c = '-' ∧ cs.head? = some (.char '-') ∧ .char '\n' ∉ cs
      · obtain ⟨rfl, head, unended⟩ := opens
        obtain ⟨inline, rfl⟩ := List.head?_eq_some_iff.mp head
        have within : .char '\n' ∉ inline := fun member => unended (List.mem_cons_of_mem _ member)
        obtain ⟨stop, scanned, ends⟩ := scanFrom_openComment p within
        obtain ⟨stop', goesOn, ends'⟩ := scanFrom_openComment_append blank p within
        exact ⟨[], stop, stop', scanned, goesOn, ends, ends'⟩
      · have same : lexeme c (cs ++ e) = lexeme c cs :=
          lexeme_append_allBlank blank (by simpa using first) fun hyphen next => by
            by_contra unended
            exact opens ⟨hyphen, next, unended⟩
        have within := (lexeme_length c cs).2
        obtain ⟨inner, stop, stop', here, there, ends, ends'⟩ :=
          ih (p.advance c) (show (lexeme c cs).length - 1 ≤ cs.length by omega)
        obtain ⟨front, scanned, goesOn⟩ := exists_front_of_lexeme same p
        rw [List.cons_append, scanned, goesOn, here, there]
        exact ⟨front ++ inner, stop, stop', by simp, by simp, ends, ends'⟩

end SqlConsole.Token
