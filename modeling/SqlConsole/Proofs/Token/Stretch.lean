import SqlConsole.Statement.Query
import SqlConsole.Proofs.Token.Spelling

/-!
# Stretches of a source text

A stretch of a source text reads as the same tokens wherever it stands, as long as what follows
stands apart from it (`Text.Reads`). Stretches that are put together read as their tokens together
(`Reads.append`).
-/

namespace SqlConsole

open Token (scanFrom placed)

/-! ### What stands apart -/

/-- Whether no token can go on in a text: it is empty, or starts with a blank or a comma. -/
def Text.IsApart (t : Text) : Prop := ∀ c ∈ t.head?, c.isBlank = true ∨ c = ','

namespace Text.IsApart

variable {t : Text}

theorem nil : IsApart [] := fun _ member => absurd member (by simp)

theorem comma (t : Text) : IsApart (.char ',' :: t) := by
  rintro c ⟨⟩
  exact .inr rfl

theorem blanks {b : Text} (blank : b.AllBlank) (apart : t.IsApart) : IsApart (b ++ t) := by
  cases b with
  | nil => exact apart
  | cons c b =>
    rintro d ⟨⟩
    exact .inl (blank c List.mem_cons_self)

theorem gap {b : Text} (blank : b.AllBlank) (present : b ≠ []) (t : Text) : IsApart (b ++ t) := by
  obtain ⟨c, b, rfl⟩ := List.exists_cons_of_ne_nil present
  rintro d ⟨⟩
  exact .inl (blank c List.mem_cons_self)

theorem isWord (apart : t.IsApart) : ∀ c ∈ t.head?, c.isWord = false := by
  intro c head
  rcases apart c head with blank | rfl
  · exact CodePoint.isWord_of_isBlank blank
  · decide

theorem isDigit (apart : t.IsApart) : ∀ c ∈ t.head?, c.isDigit = false ∧ c ≠ '.' := by
  intro c head
  rcases apart c head with blank | rfl
  · refine ⟨CodePoint.isDigit_of_isBlank blank, ?_⟩
    rintro rfl
    exact absurd blank (by decide)
  · decide

theorem doubleKind? (apart : t.IsApart) (c : CodePoint) :
    t.head?.bind (Token.doubleKind? c) = none := by
  cases t with
  | nil => rfl
  | cons d t =>
    have edge := apart d rfl
    rw [List.head?_cons, Option.bind_some]
    unfold Token.doubleKind?
    split <;> first | rfl | exact absurd edge (by decide)

end Text.IsApart

/-! ### Stretches -/

/-- Whether the stretch `t` of the source text `before ++ (t ++ after)` reads as some tokens. -/
def Scans (before t after : Text) (tokens : List Token) : Prop :=
  scanFrom (Position.start.after before) 0 (t ++ after) =
    tokens ++ scanFrom (Position.start.after (before ++ t)) 0 after

theorem Scans.append {before a b after : Text} {ta tb : List Token}
    (first : Scans before a (b ++ after) ta) (second : Scans (before ++ a) b after tb) :
    Scans before (a ++ b) after (ta ++ tb) := by
  unfold Scans at *
  rw [List.append_assoc, first, second, List.append_assoc, List.append_assoc]

theorem Scans.blank (before : Text) {b : Text} (blank : b.AllBlank) (after : Text) :
    Scans before b after [] := by
  unfold Scans
  rw [Token.scanFrom_blank _ blank, Position.after_append, List.nil_append]

/-- Whether a stretch reads, wherever it stands apart from what follows, as tokens that have a
property in the source text. -/
def Text.Reads (t : Text) (P : Text → List Token → Prop) : Prop :=
  ∀ before after, after.IsApart →
    ∃ tokens, Scans before t after tokens ∧ P (before ++ (t ++ after)) tokens

namespace Text.Reads

variable {a b : Text} {P Q : Text → List Token → Prop}

theorem imp (reads : Reads a P) (weaker : ∀ source tokens, P source tokens → Q source tokens) :
    Reads a Q := by
  intro before after apart
  obtain ⟨tokens, scans, holds⟩ := reads before after apart
  exact ⟨tokens, scans, weaker _ _ holds⟩

theorem append (first : Reads a P) (edge : ∀ after : Text, after.IsApart → IsApart (b ++ after))
    (second : Reads b Q) :
    Reads (a ++ b) fun source tokens =>
      ∃ ta tb, tokens = ta ++ tb ∧ P source ta ∧ Q source tb := by
  intro before after apart
  obtain ⟨ta, scansA, holdsA⟩ := first before (b ++ after) (edge after apart)
  obtain ⟨tb, scansB, holdsB⟩ := second (before ++ a) after apart
  refine ⟨ta ++ tb, scansA.append scansB, ta, tb, rfl, ?_, ?_⟩
  · rwa [List.append_assoc]
  · rwa [List.append_assoc, ← List.append_assoc a] at holdsB

theorem blank (blank : b.AllBlank) (reads : Reads a P) : Reads (b ++ a) P := by
  intro before after apart
  obtain ⟨tokens, scans, holds⟩ := reads (before ++ b) after apart
  refine ⟨tokens, (Scans.blank before blank (a ++ after)).append scans, ?_⟩
  rwa [List.append_assoc, ← List.append_assoc b] at holds

theorem gap {g : Text} (first : Reads a P) (blank : g.AllBlank) (present : g ≠ [])
    (second : Reads b Q) :
    Reads (a ++ (g ++ b)) fun source tokens =>
      ∃ ta tb, tokens = ta ++ tb ∧ P source ta ∧ Q source tb :=
  first.append (fun after _ => by rw [List.append_assoc]; exact .gap blank present _)
    (second.blank blank)

end Text.Reads

/-! ### Tokens of a stretch -/

theorem slice_stretch {before t after : Text} {tokens : List Token} {first last : Token}
    (head : tokens.head? = some first) (getLast : tokens.getLast? = some last)
    (start : first.start = before.length) (stop : last.stop = before.length + t.length) :
    Query.slice (before ++ (t ++ after)) tokens = t.trim := by
  simp [Query.slice, head, getLast, start, stop]

theorem reads_token {t : Text} {kind : TokenKind}
    (scans : ∀ p rest, rest.IsApart →
      scanFrom p 0 (t ++ rest) = placed p kind t :: scanFrom (p.after t) 0 rest) :
    t.Reads fun source tokens => ∃ token, tokens = [token] ∧ token.kind = kind ∧
      token.value = Token.valueOf kind t ∧ Query.slice source tokens = t.trim := by
  intro before after apart
  refine ⟨[placed (Position.start.after before) kind t], ?_, _, rfl, rfl, rfl, ?_⟩
  · unfold Scans
    rw [scans _ _ apart, Position.after_append]
    rfl
  · exact slice_stretch rfl rfl (offset_after_start before) (by simp [placed, offset_after_start])

theorem reads_word {w : Text} (word : w.IsWord) (textless : Token.wordKind w ≠ .text) :
    w.Reads fun source tokens => ∃ token, tokens = [token] ∧ token.kind = Token.wordKind w ∧
      token.value = w ∧ Query.slice source tokens = w.trim := by
  have value : Token.valueOf (Token.wordKind w) w = w := by
    unfold Token.valueOf
    split
    · exact absurd ‹_› textless
    · rfl
  have reads := reads_token fun p rest apart => Token.scanFrom_word p word apart.isWord
  rwa [value] at reads

theorem Text.Reads.comma {t : Text} {P : Text → List Token → Prop} (reads : t.Reads P) :
    Text.Reads (.char ',' :: t) fun source tokens =>
      ∃ token rest, tokens = token :: rest ∧ token.kind = .comma ∧ P source rest := by
  intro before after apart
  obtain ⟨rest, scans, holds⟩ := reads (before ++ [.char ',']) after apart
  have comma : Scans before [.char ','] (t ++ after)
      [placed (Position.start.after before) .comma [.char ',']] := by
    have alone : (t ++ after).head?.bind (Token.doubleKind? (.char ',')) = none := by
      cases t ++ after <;> rfl
    unfold Scans
    rw [List.singleton_append, Token.scanFrom_single _ rfl alone (by simp), Position.after_append]
    rfl
  refine ⟨_ :: rest, comma.append scans, _, rest, rfl, rfl, ?_⟩
  rwa [List.append_assoc] at holds

end SqlConsole
