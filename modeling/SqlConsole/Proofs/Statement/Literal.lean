import SqlConsole.Proofs.Statement.Terminated
import SqlConsole.Proofs.Value.Writable

/-!
# Literals of conditions

The literal of a condition that was read is a text, an integer or a floating-point number
(`Value.IsReadLiteral.isLiteral`). The sign before a number changes nothing about this, and no
numeral among the tokens writes what is not a number. It can also be written
(`Value.IsReadLiteral.isWritable`).
-/

namespace SqlConsole

namespace Value

def IsNumber : Value → Prop
  | integer _ => True
  | real x => ∀ object, x ≠ .nan object
  | _ => False

def IsText : Value → Prop
  | text _ => True
  | _ => False

def IsLiteral (v : Value) : Prop := v.IsText ∨ v.IsNumber

def IsReadLiteral (literal : Value) : Prop :=
  ∃ text statement selection condition, Statement.parse text = .ok (some statement) ∧
    statement.request = .select selection ∧ condition ∈ selection.condition ∧
    condition.literal = literal

end Value

namespace Query

variable {source : Text} {tokens : List Token}

/-! ### Where a literal is read -/

theorem subset_of_reference? {column rest : List Token}
    (read : reference? tokens = some (column, rest)) : rest ⊆ tokens := by
  unfold reference? at read
  split at read
  · split at read
    · cases read
    split at read
    · cases read
      intro u member
      simp [member]
    · cases read
      exact List.subset_cons_self _ _
  · split at read
    · cases read
      exact List.subset_cons_self _ _
    · cases read
  · cases read

theorem literal?_of_condition? {condition : Condition}
    (read : condition? source tokens = some (.ok condition)) :
    ∃ rest ⊆ tokens, literal? rest = some (.ok condition.literal) := by
  induction tokens with
  | nil => cases read
  | cons t ts ih =>
    rw [condition?] at read
    split at read
    · rename_i found
      cases read
      unfold comparison? at found
      obtain ⟨⟨column, rest⟩, front, found⟩ := Option.bind_eq_some_iff.mp found
      cases rest with
      | nil => cases found
      | cons u rest =>
        obtain ⟨op, -, found⟩ := Option.bind_eq_some_iff.mp found
        obtain ⟨literal, given, found⟩ := Option.bind_eq_some_iff.mp found
        obtain ⟨_, rfl, ⟨⟩⟩ := map_ok_iff.mp (Option.some.inj found)
        have inside := List.Subset.trans (List.subset_cons_self u rest) (subset_of_reference? front)
        exact ⟨rest, inside, given⟩
    · obtain ⟨rest, inside, given⟩ := ih read
      exact ⟨rest, List.Subset.trans inside (List.subset_cons_self _ _), given⟩

/-! ### What a literal is -/

def WritesNumber (t : Token) : Prop :=
  t.kind = .decimal → ∃ x, Numeral.read? t.value = some x ∧ ∀ object, x ≠ .nan object

theorem isNumber_of_number? {negative : Bool} {t : Token} {literal : Value}
    (numeral : WritesNumber t)
    (read : number? negative t = some (.ok literal)) : literal.IsNumber := by
  unfold number? at read
  split at read
  · obtain ⟨n, -, rfl⟩ := map_ok_iff.mp (Option.some.inj read)
    trivial
  · rename_i decimal
    obtain ⟨x, found, number⟩ := numeral decimal
    rw [found] at read
    cases read
    cases negative with
    | false => exact number
    | true => cases x <;> first | exact absurd rfl (number _) | nofun
  · cases read

theorem isLiteral_of_literal? {literal : Value}
    (numerals : ∀ t ∈ tokens, WritesNumber t)
    (read : literal? tokens = some (.ok literal)) : literal.IsLiteral := by
  unfold literal? at read
  split at read
  · cases read
  · rename_i t ts
    split at read
    · cases read
      exact .inl trivial
    split at read
    · obtain ⟨u, next, read⟩ := Option.bind_eq_some_iff.mp read
      have member := List.mem_cons_of_mem t (List.mem_of_mem_head? next)
      exact .inr (isNumber_of_number? (numerals u member) read)
    · exact .inr (isNumber_of_number? (numerals t List.mem_cons_self) read)

theorem isWritable_of_number? {negative : Bool} {t : Token} {literal : Value}
    (read : number? negative t = some (.ok literal)) : literal.isWritable = true := by
  unfold number? at read
  split at read
  · obtain ⟨n, given, rfl⟩ := map_ok_iff.mp (Option.some.inj read)
    exact Value.isWritable_of_natural? given negative
  · obtain ⟨x, -, ⟨⟩⟩ := Option.map_eq_some_iff.mp read
    rfl
  · cases read

theorem isWritable_of_literal? {literal : Value} (read : literal? tokens = some (.ok literal)) :
    literal.isWritable = true := by
  unfold literal? at read
  split at read
  · cases read
  · split at read
    · cases read
      rfl
    split at read
    · obtain ⟨u, -, read⟩ := Option.bind_eq_some_iff.mp read
      exact isWritable_of_number? read
    · exact isWritable_of_number? read

end Query

theorem Value.IsReadLiteral.exists_tokens {literal : Value} (read : literal.IsReadLiteral) :
    ∃ source, ∃ tokens ⊆ Token.scan source, Query.literal? tokens = some (.ok literal) := by
  obtain ⟨text, statement, selection, condition, parsed, query, filtered, rfl⟩ := read
  obtain ⟨source, columns, sections, reading, inScan⟩ := Statement.exists_reading parsed query
  obtain ⟨found, filters, same⟩ := reading.condition
  obtain rfl := Option.join_eq_some_iff.mp (same.symm.trans filtered)
  obtain ⟨tokens, present, -, read⟩ : ∃ tokens, Query.bodyOf .where sections = some tokens ∧
      Query.IsFilter source tokens (some condition) := by
    generalize Query.bodyOf .where sections = given at filters
    cases filters with
    | some filter => exact ⟨_, rfl, filter⟩
  obtain ⟨s, member, rfl⟩ := Option.map_eq_some_iff.mp present
  obtain ⟨rest, inside, literal⟩ := Query.literal?_of_condition? read
  have there := inScan s (List.mem_of_find?_eq_some member)
  exact ⟨source, rest, List.Subset.trans inside there, literal⟩

theorem Value.IsReadLiteral.isLiteral {literal : Value} (read : literal.IsReadLiteral) :
    literal.IsLiteral := by
  obtain ⟨source, tokens, inScan, read⟩ := read.exists_tokens
  exact Query.isLiteral_of_literal? (fun t there decimal => Token.read?_of_scan (inScan there) decimal)
    read

theorem Value.IsReadLiteral.isWritable {literal : Value} (read : literal.IsReadLiteral) :
    literal.isWritable = true := by
  obtain ⟨_, _, -, read⟩ := read.exists_tokens
  exact Query.isWritable_of_literal? read

end SqlConsole
