import SqlConsole.Proofs.Query.Grammar
import SqlConsole.Proofs.Token.Spelling
import Mathlib.Computability.Language

/-!
# Written queries

The texts that write a selection (`rendering`): its columns and its clauses in order, with blanks
between any two items, reserved words in any case, and all that may be left out written or not. Its
numerals may be of any length, or only of those that a property lets through. A selection of names
and plain literals (`IsWritable`) has such a text (`exists_rendering`).
-/

namespace SqlConsole.Rendering

/-! ### Selections that can be written -/

def IsName (t : Text) : Prop := t.IsWord ∧ Keyword.ofSpelling? t.lower = none

instance : DecidablePred IsName := fun _ => inferInstanceAs (Decidable (_ ∧ _))

inductive IsReference : Text → Prop
  | plain {name : Text} (named : IsName name) : IsReference name
  | qualified {qualifier name : Text} (qualified : IsName qualifier) (named : IsName name) :
      IsReference (qualifier ++ .char '.' :: name)

inductive IsColumn : Text → Prop
  | reference {t : Text} (reference : IsReference t) : IsColumn t
  | all : IsColumn [.char '*']
  | allOf {qualifier : Text} (qualified : IsName qualifier) :
      IsColumn (qualifier ++ [.char '.', .char '*'])

inductive IsLiteral : Value → Prop
  | text {t : Text} (plain : .char '\\' ∉ t) : IsLiteral (.text t)
  | integer (n : Int) : IsLiteral (.integer n)

structure IsWritable (s : Selection) : Prop where
  columns_ne_nil : s.columns ≠ []
  columns : ∀ column ∈ s.columns, IsColumn column
  table : IsName s.table
  tableAlias : ∀ name ∈ s.tableAlias, IsName name
  condition : ∀ c ∈ s.condition,
    IsReference c.column ∧ (∀ symbol, c.operator ≠ .unknown symbol) ∧ IsLiteral c.literal
  groupBy : ∀ column ∈ s.groupBy, IsReference column
  orderBy : ∀ item ∈ s.orderBy, IsReference item.column

/-! ### Items -/

def blanks : Language CodePoint := {t : Text | t.AllBlank}

def gap : Language CodePoint := {t : Text | t.AllBlank ∧ t ≠ []}

/-- A reserved word, each letter in either case. -/
def word (k : Keyword) : Language CodePoint := {t | k.IsSpelling t}

def exactly (t : Text) : Language CodePoint := {t}

def separated : List (Language CodePoint) → Language CodePoint
  | [] => 1
  | [item] => item
  | item :: rest => item * (blanks * exactly "," * blanks) * separated rest

/-- The digits of a number, of any script and as many zeros in front, if they fit. -/
def numeral (fits : Text → Prop) (n : Nat) : Language CodePoint :=
  {t : Text | t ≠ [] ∧ (∀ c ∈ t, c.isDigit = true) ∧ t.natural = n ∧ fits t}

/-- The sign of an integer. A plus may be left out. -/
def sign (n : Int) : Language CodePoint :=
  (if 0 ≤ n then 1 + exactly "+" else 0) + if n ≤ 0 then exactly "-" else 0

def operator : Operator → Language CodePoint
  | .eq => exactly "="
  | .ne => exactly "!=" + exactly "<>"
  | .lt => exactly "<"
  | .gt => exactly ">"
  | .le => exactly "<="
  | .ge => exactly ">="
  | .like => word .like
  | .unknown _ => 0

/-- A literal: a text between quotes of either kind, or an integer with its sign. -/
def literal (fits : Text → Prop) : Value → Language CodePoint
  | .text t => exactly (Token.quoted '\'' t) + exactly (Token.quoted '"' t)
  | .integer n => sign n * numeral fits n.natAbs
  | _ => 0

/-! ### Clauses -/

section

variable (fits : Text → Prop)

def source (table : Text) : Option Text → Language CodePoint
  | none => exactly table
  | some name => exactly table * gap * (1 + word .as * gap) * exactly name

def comparison (c : Condition) : Language CodePoint :=
  exactly c.column * gap * operator c.operator * gap * literal fits c.literal

/-- A column to sort by. The word for the ascending direction may be left out. -/
def sortItem (item : SortItem) : Language CodePoint :=
  exactly item.column *
    match item.direction with
    | .ascending => 1 + gap * word .asc
    | .descending => gap * word .desc

def keyword : Clause → Keyword
  | .from => .from
  | .where => .where
  | .group => .group
  | .order => .order
  | .limit => .limit
  | .offset => .offset

def opening (clause : Clause) : Language CodePoint :=
  word (keyword clause) * if clause.takesBy then gap * word .by else 1

def body? (s : Selection) : Clause → Option (Language CodePoint)
  | .from => some (source s.table s.tableAlias)
  | .where => s.condition.map (comparison fits)
  | .group => if s.groupBy = [] then none else some (separated (s.groupBy.map exactly))
  | .order => if s.orderBy = [] then none else some (separated (s.orderBy.map sortItem))
  | .limit => s.limit.map (numeral fits)
  | .offset => s.offset.map (numeral fits)

def clauses (s : Selection) : List Clause → Language CodePoint
  | [] => 1
  | clause :: rest =>
    match body? fits s clause with
    | none => clauses s rest
    | some body => gap * opening clause * gap * body * clauses s rest

def rendering (s : Selection) : Language CodePoint :=
  blanks * word .select * gap * separated (s.columns.map exactly) * clauses fits s Clause.all *
    blanks * exactly ";" * blanks

end

section

variable {fits : Text → Prop} {s : Selection}

theorem mem_clauses_cons {clause : Clause} {cs : List Clause} {body : Language CodePoint}
    {g o h b t : Text} (found : body? fits s clause = some body) (before : g ∈ gap)
    (opens : o ∈ opening clause) (behind : h ∈ gap) (written : b ∈ body)
    (rest : t ∈ clauses fits s cs) : g ++ o ++ h ++ b ++ t ∈ clauses fits s (clause :: cs) := by
  rw [clauses, found]
  have start := Language.append_mem_mul (Language.append_mem_mul before opens) behind
  exact Language.append_mem_mul (Language.append_mem_mul start written) rest

theorem mem_rendering {l w g c t b e : Text} (lead : l ∈ blanks) (spelt : w ∈ word .select)
    (apart : g ∈ gap) (columns : c ∈ separated (s.columns.map exactly))
    (written : t ∈ clauses fits s Clause.all) (blank : b ∈ blanks) (after : e ∈ blanks) :
    l ++ w ++ g ++ c ++ t ++ b ++ Text.ofString ";" ++ e ∈ rendering fits s := by
  have start := Language.append_mem_mul (Language.append_mem_mul lead spelt) apart
  have query := Language.append_mem_mul (Language.append_mem_mul start columns) written
  have ended := Language.append_mem_mul (Language.append_mem_mul query blank)
    (show Text.ofString ";" ∈ exactly ";" from rfl)
  exact Language.append_mem_mul ended after

end

/-! ### There is a text -/

theorem nil_mem_blanks : [] ∈ blanks := fun _ member => absurd member List.not_mem_nil

theorem decimal_mem_numeral (n : Nat) : Text.decimal n ∈ numeral (fun _ => True) n := by
  have digits : ∀ n : Fin 128, (Char.ofNat n).isDigit = true →
      CodePoint.isDigit (Char.ofNat n) = true := by decide +kernel
  refine ⟨by simp [Text.decimal, Nat.toDigits_ne_nil], ?_, Text.natural_decimal n, trivial⟩
  intro c member
  obtain ⟨ch, inner, rfl⟩ := List.mem_map.mp member
  have digit : ch.isDigit = true := Nat.isDigit_of_mem_toDigits (by decide) (le_refl 10) inner
  have ascii : ch.toNat < 0x80 := by
    simp only [Char.isDigit, Bool.and_eq_true, decide_eq_true_eq] at digit
    have below : ch.toNat ≤ 57 := digit.2
    omega
  exact CodePoint.forall_ascii (p := fun ch => ch.isDigit = true → CodePoint.isDigit ch = true)
    digits ascii digit

section

variable {l m : Language CodePoint}

theorem exists_mul (first : ∃ t, t ∈ l) (second : ∃ t, t ∈ m) : ∃ t, t ∈ l * m := by
  obtain ⟨a, first⟩ := first
  obtain ⟨b, second⟩ := second
  exact ⟨a ++ b, Language.append_mem_mul first second⟩

theorem exists_exactly (t : Text) : ∃ u, u ∈ exactly t := ⟨t, rfl⟩

theorem exists_blanks : ∃ t, t ∈ blanks := ⟨[], nil_mem_blanks⟩

theorem exists_gap : ∃ t, t ∈ gap := by
  refine ⟨[.char ' '], fun c member => ?_, List.cons_ne_nil _ _⟩
  obtain rfl := List.mem_singleton.mp member
  decide

theorem spelling_mem_word (k : Keyword) : k.spelling ∈ word k := by
  have each : Keyword.all.all (fun k =>
      k.spelling == k.spelling.string.toList.map .char &&
        (k.spelling.string.toList.map Char.toLower).map .char == k.spelling) = true := by
    decide +kernel
  have spelt := List.all_eq_true.mp each k k.mem_all
  rw [Bool.and_eq_true, beq_iff_eq, beq_iff_eq] at spelt
  exact ⟨k.spelling.string.toList, spelt⟩

theorem exists_word (k : Keyword) : ∃ t, t ∈ word k := ⟨_, spelling_mem_word k⟩

theorem exists_opening (clause : Clause) : ∃ t, t ∈ opening clause := by
  refine exists_mul (exists_word _) ?_
  split
  · exact exists_mul exists_gap (exists_word .by)
  · exact ⟨[], rfl⟩

theorem exists_separated {items : List (Language CodePoint)} (each : ∀ l ∈ items, ∃ t, t ∈ l) :
    ∃ t, t ∈ separated items := by
  induction items with
  | nil => exact ⟨[], rfl⟩
  | cons item items ih =>
    have first := each item List.mem_cons_self
    have others := ih fun l member => each l (List.mem_cons_of_mem _ member)
    cases items with
    | nil => exact first
    | cons next items =>
      have comma := exists_mul (exists_mul exists_blanks (exists_exactly ",")) exists_blanks
      exact exists_mul (exists_mul first comma) others

theorem exists_literal {value : Value} (plain : IsLiteral value) :
    ∃ t, t ∈ literal (fun _ => True) value := by
  cases plain with
  | text plain => exact ⟨_, .inl rfl⟩
  | integer n =>
    refine exists_mul ?_ ⟨_, decimal_mem_numeral _⟩
    rcases Int.le_total 0 n with positive | negative
    · exact ⟨[], .inl (by rw [if_pos positive]; exact .inl rfl)⟩
    · exact ⟨_, .inr (by rw [if_pos negative]; rfl)⟩

theorem exists_operator {op : Operator} (known : ∀ symbol, op ≠ .unknown symbol) :
    ∃ t, t ∈ operator op := by
  cases op with
  | eq | lt | gt | le | ge => exact exists_exactly _
  | ne => exact ⟨_, .inl rfl⟩
  | like => exact exists_word .like
  | unknown symbol => exact absurd rfl (known symbol)

theorem exists_body {s : Selection} (writable : IsWritable s) (clause : Clause) :
    ∀ body ∈ body? (fun _ => True) s clause, ∃ t, t ∈ body := by
  intro body there
  cases clause with
  | «from» =>
    cases there
    cases s.tableAlias with
    | none => exact exists_exactly _
    | some name =>
      have word : ∃ t, t ∈ (1 + Rendering.word .as * gap : Language CodePoint) := ⟨[], .inl rfl⟩
      have start := exists_mul (exists_exactly s.table) exists_gap
      exact exists_mul (exists_mul start word) (exists_exactly _)
  | «where» =>
    obtain ⟨c, present, rfl⟩ := Option.map_eq_some_iff.mp there
    obtain ⟨-, known, plain⟩ := writable.condition c present
    exact exists_mul (exists_mul (exists_mul (exists_mul (exists_exactly _) exists_gap)
      (exists_operator known)) exists_gap) (exists_literal plain)
  | group =>
    obtain ⟨-, found⟩ := Option.ite_none_left_eq_some.mp there
    obtain rfl := Option.some.inj found
    exact exists_separated (by simpa using fun _ _ => exists_exactly _)
  | order =>
    obtain ⟨-, found⟩ := Option.ite_none_left_eq_some.mp there
    obtain rfl := Option.some.inj found
    have item : ∀ i, ∃ t, t ∈ sortItem i := by
      intro i
      refine exists_mul (exists_exactly _) ?_
      cases i.direction with
      | ascending => exact ⟨[], .inl rfl⟩
      | descending => exact exists_mul exists_gap (exists_word .desc)
    exact exists_separated (by simpa using fun i _ => item i)
  | limit | offset =>
    obtain ⟨n, -, rfl⟩ := Option.map_eq_some_iff.mp there
    exact ⟨_, decimal_mem_numeral n⟩

theorem exists_clauses {s : Selection} (writable : IsWritable s) (cs : List Clause) :
    ∃ t, t ∈ clauses (fun _ => True) s cs := by
  induction cs with
  | nil => exact ⟨[], rfl⟩
  | cons clause cs ih =>
    cases found : body? (fun _ => True) s clause with
    | none =>
      rw [clauses, found]
      exact ih
    | some body =>
      obtain ⟨g, apart⟩ := exists_gap
      obtain ⟨o, opens⟩ := exists_opening clause
      obtain ⟨b, written⟩ := exists_body writable clause body found
      obtain ⟨t, rest⟩ := ih
      exact ⟨_, mem_clauses_cons found apart opens apart written rest⟩

theorem exists_rendering {s : Selection} (writable : IsWritable s) :
    ∃ t, t ∈ rendering (fun _ => True) s := by
  have listed : ∃ t, t ∈ separated (s.columns.map exactly) :=
    exists_separated (by simpa using fun _ _ => exists_exactly _)
  obtain ⟨c, columns⟩ := listed
  obtain ⟨g, apart⟩ := exists_gap
  obtain ⟨t, written⟩ := exists_clauses writable Clause.all
  exact ⟨_, mem_rendering nil_mem_blanks (spelling_mem_word .select) apart columns written
    nil_mem_blanks nil_mem_blanks⟩

end

end SqlConsole.Rendering
