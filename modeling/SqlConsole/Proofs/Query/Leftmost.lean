import SqlConsole.Proofs.Query.Written
import SqlConsole.Proofs.Token.Numbers

/-!
# The first comparison

The tokens of a comparison are a reference, an operator and a literal (`Compares`), whose number
may be too long to be read. The condition of a list of tokens is the leftmost comparison in it, and
what is appended to the list does not change it (`condition?_leftmost`): a comparison that starts
within another one ends with it (`Compares.ends_together`), so nothing behind a comparison
completes an earlier one.
-/

namespace SqlConsole.Query

open Rendering (RefersTo)

variable {source : Text} {tokens run more literal : List Token}
  {condition : Except Overlong Condition} {value : Except Overlong Value}

/-! ### Tokens of a comparison -/

inductive WritesValue (negative : Bool) : Token → Except Overlong Value → Prop
  | integer {t : Token} {n : Nat} (kind : t.kind = .integer) (read : t.value.natural? = .ok n) :
      WritesValue negative t (.ok (.integer (if negative then -(n : Int) else n)))
  | overlong {t : Token} {what : Overlong} (kind : t.kind = .integer)
      (read : t.value.natural? = .error what) : WritesValue negative t (.error what)
  | decimal {t : Token} {x : Binary64} (kind : t.kind = .decimal)
      (read : Numeral.read? t.value = some x) :
      WritesValue negative t (.ok (.real (if negative then x.neg else x)))

/-- The tokens of a literal: a text, or a number with or without a sign. -/
inductive Denotes : List Token → Except Overlong Value → Prop
  | text {t : Token} (kind : t.kind = .text) : Denotes [t] (.ok (.text t.value))
  | number {t : Token} {value : Except Overlong Value} (writes : WritesValue false t value) :
      Denotes [t] value
  | plus {sign t : Token} {value : Except Overlong Value} (kind : sign.kind = .arithmetic)
      (plus : sign.value = "+") (writes : WritesValue false t value) : Denotes [sign, t] value
  | minus {sign t : Token} {value : Except Overlong Value} (kind : sign.kind = .arithmetic)
      (minus : sign.value = "-") (writes : WritesValue true t value) : Denotes [sign, t] value

/-- The tokens of a comparison: a reference to a column, an operator and a literal. -/
inductive Compares (source : Text) : List Token → Except Overlong Condition → Prop
  | mk {column literal : List Token} {t : Token} {operator : Operator}
      {value : Except Overlong Value} (refers : RefersTo column)
      (operates : operator? t.kind = some operator) (denotes : Denotes literal value) :
      Compares source (column ++ t :: literal)
        (value.map (⟨slice source column, operator, ·⟩))

/-- Whether a comparison starts at an index of a list of tokens. -/
def ComparesAt (source : Text) (tokens : List Token) (index : Nat)
    (condition : Except Overlong Condition) : Prop :=
  ∃ run rest, tokens.drop index = run ++ rest ∧ Compares source run condition

theorem number?_eq_some_iff {negative : Bool} {t : Token} :
    number? negative t = some value ↔ WritesValue negative t value := by
  constructor
  · intro read
    unfold number? at read
    split at read
    · rename_i kind
      cases found : t.value.natural? with
      | ok n =>
        rw [found] at read
        cases read
        exact .integer kind found
      | error what =>
        rw [found] at read
        cases read
        exact .overlong kind found
    · rename_i kind
      obtain ⟨x, found, rfl⟩ := Option.map_eq_some_iff.mp read
      exact .decimal kind found
    · cases read
  · intro writes
    cases writes with
    | integer kind read | overlong kind read => simp [number?, kind, read, Except.map]
    | decimal kind read => simp [number?, kind, read]

theorem literal?_eq_some_iff :
    literal? tokens = some value ↔
      ∃ literal rest, tokens = literal ++ rest ∧ Denotes literal value := by
  constructor
  · intro read
    unfold literal? at read
    split at read
    · cases read
    rename_i t rest
    split at read
    · rename_i kind
      cases read
      exact ⟨[t], rest, rfl, .text kind⟩
    split at read
    · rename_i signed
      obtain ⟨u, next, read⟩ := Option.bind_eq_some_iff.mp read
      obtain ⟨rest, rfl⟩ := List.head?_eq_some_iff.mp next
      refine ⟨[t, u], rest, rfl, ?_⟩
      rcases signed with ⟨kind, minus | plus⟩
      · exact .minus kind minus (number?_eq_some_iff.mp (by simpa [minus] using read))
      · have unlike : t.value ≠ Text.ofString "-" := by rw [plus]; decide
        exact .plus kind plus (number?_eq_some_iff.mp (by simpa [unlike] using read))
    · exact ⟨[t], rest, rfl, .number (number?_eq_some_iff.mp read)⟩
  · rintro ⟨literal, rest, rfl, denotes⟩
    cases denotes with
    | text kind => simp [literal?, kind]
    | number writes =>
      have read := number?_eq_some_iff.mpr writes
      cases writes with
      | integer kind | overlong kind | decimal kind => simpa [literal?, kind] using read
    | plus kind plus writes =>
      simpa [literal?, kind, plus, Text.ofString] using number?_eq_some_iff.mpr writes
    | minus kind minus writes =>
      simpa [literal?, kind, minus, Text.ofString] using number?_eq_some_iff.mpr writes

theorem refersTo_of_reference? {column rest : List Token}
    (read : reference? tokens = some (column, rest)) :
    RefersTo column ∧ tokens = column ++ rest := by
  unfold reference? at read
  split at read
  · split at read
    · cases read
    rename_i name
    have name := not_not.mp name
    split at read
    · rename_i point
      cases read
      exact ⟨.qualified name point.1 point.2, rfl⟩
    · cases read
      exact ⟨.plain name, rfl⟩
  · split at read
    · rename_i name
      cases read
      exact ⟨.plain name, rfl⟩
    · cases read
  · cases read

theorem comparison?_eq_some_iff : comparison? source tokens = some condition ↔
    ∃ run rest, tokens = run ++ rest ∧ Compares source run condition := by
  constructor
  · intro read
    unfold comparison? at read
    obtain ⟨⟨column, rest⟩, front, found⟩ := Option.bind_eq_some_iff.mp read
    obtain ⟨refers, rfl⟩ := refersTo_of_reference? front
    cases rest with
    | nil => cases found
    | cons t rest =>
      obtain ⟨operator, operates, found⟩ := Option.bind_eq_some_iff.mp found
      obtain ⟨value, given, ⟨⟩⟩ := Option.bind_eq_some_iff.mp found
      obtain ⟨literal, rest, rfl, denotes⟩ := literal?_eq_some_iff.mp given
      exact ⟨column ++ t :: literal, rest, by simp, .mk refers operates denotes⟩
  · rintro ⟨_, rest, rfl, ⟨refers, operates, denotes⟩⟩
    rw [List.append_assoc, List.cons_append]
    exact Rendering.comparison?_of_tokens refers operates
      (literal?_eq_some_iff.mpr ⟨_, rest, rfl, denotes⟩)

theorem comparesAt_zero :
    ComparesAt source tokens 0 condition ↔ comparison? source tokens = some condition :=
  comparison?_eq_some_iff.symm

theorem not_comparesAt_nil (index : Nat) : ¬ComparesAt source [] index condition := by
  rintro ⟨_, rest, cut, ⟨refers, -, -⟩⟩
  cases refers <;> simp at cut

/-! ### The leftmost comparison -/

/-- Whether a comparison starts at an index and none starts before it. -/
def IsLeftmost (source : Text) (tokens : List Token) (index : Nat)
    (condition : Except Overlong Condition) : Prop :=
  ComparesAt source tokens index condition ∧
    ∀ earlier < index, ∀ other, ¬ComparesAt source tokens earlier other

theorem condition?_eq_none_iff :
    condition? source tokens = none ↔ ∀ index other, ¬ComparesAt source tokens index other := by
  induction tokens with
  | nil => simp [condition?, not_comparesAt_nil]
  | cons t tokens ih =>
    rw [condition?]
    cases found : comparison? source (t :: tokens) with
    | some c => simpa using ⟨0, c, comparesAt_zero.mpr found⟩
    | none =>
      rw [ih]
      constructor
      · intro none index other
        cases index with
        | zero => simp [comparesAt_zero, found]
        | succ index => exact none index other
      · exact fun none index other => none (index + 1) other

theorem exists_isLeftmost (read : condition? source tokens = some condition) :
    ∃ index, IsLeftmost source tokens index condition := by
  induction tokens with
  | nil => cases read
  | cons t tokens ih =>
    rw [condition?] at read
    split at read
    · rename_i found
      cases read
      exact ⟨0, comparesAt_zero.mpr found, by simp⟩
    · rename_i absent
      obtain ⟨index, compares, first⟩ := ih read
      refine ⟨index + 1, compares, fun earlier before other found => ?_⟩
      cases earlier with
      | zero => rw [comparesAt_zero, absent] at found; cases found
      | succ earlier => exact first earlier (by omega) other found

theorem condition?_of_isLeftmost {index : Nat}
    (leftmost : IsLeftmost source tokens index condition) :
    condition? source tokens = some condition := by
  induction tokens generalizing index with
  | nil => exact absurd leftmost.1 (not_comparesAt_nil index)
  | cons t tokens ih =>
    obtain ⟨compares, first⟩ := leftmost
    rw [condition?]
    cases index with
    | zero => rw [comparesAt_zero.mp compares]
    | succ index =>
      have absent : comparison? source (t :: tokens) = none := by
        rw [Option.eq_none_iff_forall_ne_some]
        exact fun other found => first 0 (by omega) other (comparesAt_zero.mpr found)
      rw [absent]
      exact ih ⟨compares, fun earlier before other =>
        first (earlier + 1) (by omega) other⟩

theorem condition?_eq_some_iff :
    condition? source tokens = some condition ↔ ∃ index, IsLeftmost source tokens index condition :=
  ⟨exists_isLeftmost, fun ⟨_, leftmost⟩ => condition?_of_isLeftmost leftmost⟩

/-! ### What follows a comparison -/

theorem Denotes.eq_nil {other : Except Overlong Value} (shorter : Denotes literal value)
    (longer : Denotes (literal ++ more) other) : more = [] := by
  cases shorter with
  | text kind =>
    cases longer with
    | text | number => rfl
    | plus sign | minus sign => cases kind.symm.trans sign
  | number writes =>
    cases longer with
    | text | number => rfl
    | plus sign | minus sign => cases writes with
      | integer kind | overlong kind | decimal kind => cases kind.symm.trans sign
  | plus | minus => cases longer <;> rfl

theorem Denotes.kind_ne (denotes : Denotes literal value) :
    ∀ t ∈ literal, t.kind ≠ .identifier := by
  have number : ∀ {negative t value}, WritesValue negative t value → t.kind ≠ .identifier := by
    intro negative t value writes
    cases writes with
    | integer kind | overlong kind | decimal kind => simp [kind]
  cases denotes with
  | text kind => simp [kind]
  | number writes => simpa using number writes
  | plus kind _ writes | minus kind _ writes => simpa [kind] using number writes

theorem kind_ne_of_operator? {kind : TokenKind} {operator : Operator}
    (operates : operator? kind = some operator) : kind ≠ .identifier := by
  rintro rfl
  cases operates

theorem Compares.behind_name {front behind : List Token} {t : Token}
    (compares : Compares source (front ++ t :: behind) condition) (inside : front ≠ [])
    (name : t.kind = .identifier) :
    ∃ u literal value, behind = u :: literal ∧ operator? u.kind ≠ none ∧ Denotes literal value := by
  generalize whole : front ++ t :: behind = run at compares
  obtain @⟨column, literal, u, operator, value, refers, operates, denotes⟩ := compares
  have nameless : ∀ start, start ++ t :: behind ≠ u :: literal := by
    intro start whole
    have member : t ∈ start ++ t :: behind := by simp
    rw [whole] at member
    rcases member with _ | ⟨_, member⟩
    · exact kind_ne_of_operator? operates name
    · exact denotes.kind_ne t member name
  obtain ⟨first, front, rfl⟩ := List.exists_cons_of_ne_nil inside
  cases refers with
  | plain _ =>
    obtain ⟨-, whole⟩ := List.cons.inj whole
    exact absurd whole (nameless front)
  | qualified _ point _ =>
    obtain ⟨-, whole⟩ := List.cons.inj whole
    rcases front with _ | ⟨second, _ | ⟨third, front⟩⟩
    · obtain ⟨rfl, -⟩ := List.cons.inj whole
      cases name.symm.trans point
    · obtain ⟨-, rfl⟩ := List.cons.inj (List.cons.inj whole).2
      exact ⟨u, literal, value, rfl, by simp [operates], denotes⟩
    · obtain ⟨-, whole⟩ := List.cons.inj (List.cons.inj whole).2
      exact absurd whole (nameless front)

theorem Compares.eq_nil {front : List Token} {other : Except Overlong Condition}
    (inner : Compares source run condition) (inside : front ≠ [])
    (outer : Compares source (front ++ (run ++ more)) other) : more = [] := by
  obtain ⟨refers, operates, denotes⟩ := inner
  cases refers with
  | plain name =>
    obtain ⟨u, literal, value, behind, -, longer⟩ := outer.behind_name inside name
    obtain ⟨-, rfl⟩ := List.cons.inj behind
    exact denotes.eq_nil longer
  | qualified name point _ =>
    obtain ⟨u, literal, value, behind, operator, -⟩ := outer.behind_name inside name
    obtain ⟨rfl, -⟩ := List.cons.inj behind
    exact absurd (by rw [point]; rfl) operator

theorem ComparesAt.lt_length {index : Nat} (compares : ComparesAt source tokens index condition) :
    index < tokens.length := by
  obtain ⟨run, rest, cut, ⟨refers, -, -⟩⟩ := compares
  by_contra beyond
  rw [List.drop_eq_nil_of_le (by omega)] at cut
  cases refers <;> cases cut

theorem ComparesAt.append {index : Nat} (compares : ComparesAt source tokens index condition)
    (more : List Token) : ComparesAt source (tokens ++ more) index condition := by
  have within := compares.lt_length
  obtain ⟨run, rest, cut, compares⟩ := compares
  exact ⟨run, rest ++ more, by
    rw [List.drop_append_of_le_length within.le, cut, List.append_assoc], compares⟩

theorem ComparesAt.of_append {index earlier : Nat} {other : Except Overlong Condition}
    (compares : ComparesAt source tokens index condition) (before : earlier < index)
    (found : ComparesAt source (tokens ++ more) earlier other) :
    ComparesAt source tokens earlier other := by
  have within := compares.lt_length
  obtain ⟨inner, rest, cut, inCompares⟩ := compares
  obtain ⟨outer, behind, found, outCompares⟩ := found
  rw [List.drop_append_of_le_length (before.trans within).le] at found
  obtain ⟨front, inside, split⟩ : ∃ front, front ≠ [] ∧
      tokens.drop earlier = front ++ (inner ++ rest) := by
    refine ⟨(tokens.drop earlier).take (index - earlier), ?_, ?_⟩
    · rw [ne_eq, List.take_eq_nil_iff, List.drop_eq_nil_iff]
      omega
    · have later : earlier + (index - earlier) = index := by omega
      rw [← cut, ← later, ← List.drop_drop, Nat.add_sub_cancel_left, List.take_append_drop]
  rcases List.append_eq_append_iff.mp found with ⟨last, longer, -⟩ | ⟨rest, whole, -⟩
  · -- The earlier comparison reaches to the end of the tokens or beyond, and holds the later one.
    rw [split, List.append_assoc, List.append_assoc] at longer
    obtain ⟨rfl, rfl⟩ := List.append_eq_nil_iff.mp (inCompares.eq_nil inside (longer ▸ outCompares))
    exact ⟨outer, [], by rw [split, longer]; simp, outCompares⟩
  · exact ⟨outer, rest, whole, outCompares⟩

theorem IsLeftmost.append {index : Nat} (leftmost : IsLeftmost source tokens index condition)
    (more : List Token) : IsLeftmost source (tokens ++ more) index condition :=
  ⟨leftmost.1.append more, fun earlier before other found =>
    leftmost.2 earlier before other (leftmost.1.of_append before found)⟩

/-- The condition of a list of tokens is the leftmost comparison in it, where this is not one with
a number that is too long, and there is none exactly if no comparison starts anywhere in the list.
It stays the same whatever follows. A token of a source text that is a number with a point always
writes one. -/
theorem condition?_leftmost (source : Text) (tokens : List Token) :
    (∀ condition, condition? source tokens = some condition ↔
      ∃ index, IsLeftmost source tokens index condition) ∧
    (condition? source tokens = none ↔
      ∀ index condition, ¬ComparesAt source tokens index condition) ∧
    (∀ condition more, condition? source tokens = some condition →
      condition? source (tokens ++ more) = some condition) ∧
    ∀ text, ∀ t ∈ Token.scan text, t.kind = .decimal → ∃ x, Numeral.read? t.value = some x := by
  refine ⟨fun condition => condition?_eq_some_iff, condition?_eq_none_iff, ?_, ?_⟩
  · intro condition more read
    obtain ⟨index, leftmost⟩ := condition?_eq_some_iff.mp read
    exact condition?_eq_some_iff.mpr ⟨index, leftmost.append more⟩
  · intro text t member decimal
    obtain ⟨x, read, -⟩ := Token.read?_of_scan member decimal
    exact ⟨x, read⟩

end SqlConsole.Query
