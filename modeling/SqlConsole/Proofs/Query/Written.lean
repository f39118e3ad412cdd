import SqlConsole.Proofs.Query.Rendering
import SqlConsole.Proofs.Token.Stretch

/-!
# Items of written queries

Each item of a written query reads as tokens of its own, none of which a neighbour takes: a
reference (`reads_reference`), a list (`reads_separated`), a literal (`reads_literal`), and the body
of each clause.
-/

namespace SqlConsole.Rendering

open Token (EachOutside scanFrom placed)

/-! ### Tokens inside clauses -/

def innerKind : TokenKind → Bool
  | .keyword .as => true
  | .keyword .asc => true
  | .keyword .desc => true
  | .keyword .like => true
  | .keyword _ => false
  | .openParen => false
  | .closeParen => false
  | .stop => false
  | .stray => false
  | _ => true

def IsInner (tokens : List Token) : Prop := ∀ t ∈ tokens, innerKind t.kind = true

def IsInline (tokens : List Token) : Prop := ∀ t ∈ tokens, innerKind t.kind = true ∧ t.kind ≠ .comma

theorem IsInline.isInner {tokens : List Token} (inline : IsInline tokens) : IsInner tokens :=
  fun t member => (inline t member).1

theorem IsInline.append {a b : List Token} (first : IsInline a) (second : IsInline b) :
    IsInline (a ++ b) := List.forall_mem_append.mpr ⟨first, second⟩

theorem IsInline.single {t : Token} (inner : innerKind t.kind = true) (free : t.kind ≠ .comma) :
    IsInline [t] := by
  simpa [IsInline] using ⟨inner, free⟩

theorem eachOutside_of_forall {p : Token → Prop} {d : Int} {tokens : List Token}
    (each : ∀ t ∈ tokens, p t) : EachOutside d p tokens := by
  rintro before t after rfl -
  exact each t (by simp)

namespace IsInner

variable {tokens : List Token}

theorem append {a b : List Token} (first : IsInner a) (second : IsInner b) : IsInner (a ++ b) :=
  List.forall_mem_append.mpr ⟨first, second⟩

theorem kind_ne (inner : IsInner tokens) {kind : TokenKind} (outer : innerKind kind = false) :
    ∀ t ∈ tokens, t.kind ≠ kind := by
  intro t member same
  have found := inner t member
  rw [same, outer] at found
  exact Bool.noConfusion found

theorem depth (inner : IsInner tokens) : Token.depth tokens = 0 := by
  have other : ∀ kind, innerKind kind = false → tokens.countP (·.kind = kind) = 0 := by
    intro kind outer
    rw [List.countP_eq_zero]
    intro t member same
    exact inner.kind_ne outer t member (of_decide_eq_true same)
  unfold Token.depth
  rw [other .openParen rfl, other .closeParen rfl]
  rfl

theorem clauseFree (inner : IsInner tokens) {d : Int} : ClauseFree d tokens := by
  refine eachOutside_of_forall fun t member => ?_
  unfold Clause.ofKind?
  split <;> first | rfl | exact absurd ‹_› (inner.kind_ne rfl t member)

end IsInner

theorem IsInline.commaFree {tokens : List Token} (inline : IsInline tokens) :
    CommaFree 0 tokens := eachOutside_of_forall fun t member => (inline t member).2

/-! ### Names -/

theorem wordKind_of_isName {t : Text} (named : IsName t) : Token.wordKind t = .identifier := by
  unfold Token.wordKind
  rw [named.2]

theorem reads_name {t : Text} (named : IsName t) :
    t.Reads fun source tokens => ∃ token, tokens = [token] ∧ token.kind = .identifier ∧
      token.value = t ∧ Query.slice source tokens = t.trim := by
  have reads := reads_word named.1 (by simp [wordKind_of_isName named])
  rwa [wordKind_of_isName named] at reads

theorem reads_keyword {k : Keyword} {t : Text} (spelt : t ∈ word k) :
    t.Reads fun _ tokens => ∃ token, tokens = [token] ∧ token.kind = .keyword k := by
  have kind : Token.wordKind t = .keyword k := Keyword.IsSpelling.wordKind spelt
  have reads := reads_word (Keyword.IsSpelling.isWord spelt) (by simp [kind])
  rw [kind] at reads
  exact reads.imp fun _ _ ⟨token, single, kind, _⟩ => ⟨token, single, kind⟩

theorem trim_of_solid {t : Text} (solid : ∀ c ∈ t, c.isBlank = false) : t.trim = t :=
  Text.trim_eq_self ⟨fun c head => solid c (List.mem_of_mem_head? head),
    fun c last => solid c (List.mem_of_mem_getLast? last)⟩

theorem IsName.word {t : Text} (named : IsName t) : ∀ c ∈ t, c.isWord = true := by
  obtain ⟨⟨c, cs, rfl, start, inner⟩, -⟩ := named
  exact List.forall_mem_cons.mpr ⟨(Bool.and_eq_true_iff.mp start).1, inner⟩

theorem IsName.solid {t : Text} (named : IsName t) : ∀ c ∈ t, c.isBlank = false :=
  fun c member => CodePoint.isBlank_of_isWord (named.word c member)

/-! ### References -/

inductive RefersTo : List Token → Prop
  | plain {t : Token} (name : t.kind = .identifier) : RefersTo [t]
  | qualified {t dot u : Token} (table : t.kind = .identifier) (point : dot.kind = .dot)
      (name : u.kind = .identifier) : RefersTo [t, dot, u]

theorem RefersTo.isInline {tokens : List Token} (refers : RefersTo tokens) : IsInline tokens := by
  cases refers with
  | plain name => simp [IsInline, name, innerKind]
  | qualified table point name => simp [IsInline, table, point, name, innerKind]

theorem RefersTo.kind_ne {tokens : List Token} (refers : RefersTo tokens) :
    ∀ t ∈ tokens, t.kind ≠ .integer := by
  cases refers with
  | plain name => simp [name]
  | qualified table point name => simp [table, point, name]

theorem RefersTo.concat {tokens : List Token} (refers : RefersTo tokens) :
    ∃ front t, tokens = front ++ [t] ∧ t.kind = .identifier := by
  cases refers with
  | plain name => exact ⟨[], _, rfl, name⟩
  | qualified table point name => exact ⟨[_, _], _, rfl, name⟩

theorem RefersTo.reference? {column : List Token} (refers : RefersTo column) {t : Token}
    (other : t.kind ≠ .dot) (rest : List Token) :
    Query.reference? (column ++ t :: rest) = some (column, t :: rest) := by
  cases refers with
  | plain name => cases rest <;> simp [Query.reference?, name, other]
  | qualified table point name => simp [Query.reference?, table, point, name]

theorem scanFrom_dot (p : Position) (rest : Text) :
    scanFrom p 0 (.char '.' :: rest) =
      placed p .dot [.char '.'] :: scanFrom (p.after [.char '.']) 0 rest := by
  refine Token.scanFrom_single p rfl ?_ (by simp)
  cases rest <;> rfl

theorem reads_qualified {qualifier t : Text} {kind : TokenKind} (qualified : IsName qualifier)
    (solid : ∀ c ∈ t, c.isBlank = false)
    (scans : ∀ p rest, rest.IsApart →
      scanFrom p 0 (t ++ rest) = placed p kind t :: scanFrom (p.after t) 0 rest) :
    Text.Reads (qualifier ++ .char '.' :: t) fun source tokens =>
      (∃ table dot u : Token, tokens = [table, dot, u] ∧ table.kind = .identifier ∧
        dot.kind = .dot ∧ u.kind = kind) ∧
        Query.slice source tokens = qualifier ++ .char '.' :: t := by
  -- The point stands apart from neither name, so its token is placed by hand between theirs.
  intro before after apart
  let p := Position.start.after before
  let table := placed p .identifier qualifier
  let dot := placed (p.after qualifier) .dot [.char '.']
  let u := placed ((p.after qualifier).after [.char '.']) kind t
  refine ⟨[table, dot, u], ?_, ⟨table, dot, u, rfl, rfl, rfl, rfl⟩, ?_⟩
  · have edge : ∀ c ∈ (.char '.' :: (t ++ after) : Text).head?, c.isWord = false := by
      rintro c ⟨⟩
      decide
    unfold Scans
    rw [List.append_assoc, List.cons_append, Token.scanFrom_word _ qualified.1 edge,
      wordKind_of_isName qualified, scanFrom_dot, scans _ _ apart, Position.after_append,
      Position.after_append, ← List.singleton_append (l := t), Position.after_append]
    rfl
  · have whole : ∀ c ∈ qualifier ++ .char '.' :: t, c.isBlank = false :=
      List.forall_mem_append.mpr ⟨qualified.solid, List.forall_mem_cons.mpr ⟨by decide, solid⟩⟩
    have start : table.start = before.length := offset_after_start before
    have stop : u.stop = before.length + (qualifier ++ .char '.' :: t).length := by
      simp only [u, p, placed, Position.after_offset, Position.start, List.length_append,
        List.length_cons, List.length_nil]
      omega
    rw [slice_stretch rfl rfl start stop, trim_of_solid whole]

theorem reads_reference {t : Text} (reference : IsReference t) :
    t.Reads fun source tokens => RefersTo tokens ∧ Query.slice source tokens = t := by
  cases reference with
  | plain named =>
    refine (reads_name named).imp fun source tokens ⟨token, single, kind, _, sliced⟩ => ?_
    rw [single] at sliced ⊢
    exact ⟨.plain kind, sliced.trans (trim_of_solid named.solid)⟩
  | qualified qualified named =>
    have scans := fun p (rest : Text) (apart : rest.IsApart) =>
      Token.scanFrom_word p named.1 apart.isWord
    rw [wordKind_of_isName named] at scans
    refine (reads_qualified qualified named.solid scans).imp ?_
    intro source tokens read
    obtain ⟨⟨table, dot, u, rfl, tableIs, dotIs, nameIs⟩, sliced⟩ := read
    exact ⟨.qualified tableIs dotIs nameIs, sliced⟩

theorem scanFrom_star (p : Position) (rest : Text) (apart : rest.IsApart) :
    scanFrom p 0 ([.char '*'] ++ rest) =
      placed p .star [.char '*'] :: scanFrom (p.after [.char '*']) 0 rest :=
  Token.scanFrom_single p rfl (apart.doubleKind? _) (by simp)

theorem reads_column {t : Text} (column : IsColumn t) :
    t.Reads fun source tokens =>
      (IsInline tokens ∧ tokens ≠ []) ∧ Query.slice source tokens = t := by
  cases column with
  | reference reference =>
    refine (reads_reference reference).imp fun source tokens ⟨refers, sliced⟩ => ?_
    exact ⟨⟨refers.isInline, by cases refers <;> simp⟩, sliced⟩
  | all =>
    refine (reads_token scanFrom_star).imp ?_
    intro source tokens read
    obtain ⟨token, rfl, kind, -, sliced⟩ := read
    refine ⟨⟨.single (by rw [kind]; rfl) (by simp [kind]), by simp⟩, sliced.trans ?_⟩
    exact trim_of_solid (by decide)
  | allOf qualified =>
    refine (reads_qualified qualified (by decide) scanFrom_star).imp ?_
    intro source tokens read
    obtain ⟨⟨table, dot, u, rfl, tableIs, dotIs, starIs⟩, sliced⟩ := read
    exact ⟨⟨by simp [IsInline, tableIs, dotIs, starIs, innerKind], by simp⟩, sliced⟩

/-! ### Lists -/

theorem reads_separated {α : Type} {render : α → Language CodePoint}
    {R : Text → List Token → α → Prop} {x : α} {xs : List α}
    (each : ∀ y ∈ x :: xs, ∀ t ∈ render y, Text.Reads t fun source tokens =>
      (IsInline tokens ∧ tokens ≠ []) ∧ R source tokens y)
    {t : Text} (written : t ∈ separated ((x :: xs).map render)) :
    t.Reads fun source tokens =>
      IsInner tokens ∧ ∃ items, Items tokens items ∧ List.Forall₂ (R source) items (x :: xs) := by
  induction xs generalizing x t with
  | nil =>
    refine (each x List.mem_cons_self t written).imp ?_
    intro source tokens read
    obtain ⟨⟨inline, present⟩, holds⟩ := read
    exact ⟨inline.isInner, [tokens], .last present inline.commaFree, .cons holds .nil⟩
  | cons y ys ih =>
    obtain ⟨_, ⟨a, first, _, ⟨_, ⟨g, blankG, _, rfl, rfl⟩, h, blankH, rfl⟩, rfl⟩, b, others, rfl⟩ :=
      written
    have readsA := each x List.mem_cons_self a first
    have readsB := ih (fun z member => each z (List.mem_cons_of_mem _ member)) others
    have edge : ∀ after : Text, after.IsApart →
        Text.IsApart (g ++ .char ',' :: (h ++ b) ++ after) := fun after _ => by
      rw [List.append_assoc]
      exact .blanks blankG (.comma _)
    have reads := readsA.append edge ((readsB.blank blankH).comma.blank blankG)
    have same : a ++ (g ++ .char ',' :: (h ++ b)) = a ++ (g ++ Text.ofString "," ++ h) ++ b := by
      simp [Text.ofString]
    rw [same] at reads
    refine reads.imp ?_
    intro source tokens read
    obtain ⟨ta, _, rfl, ⟨⟨inline, present⟩, holds⟩, comma, tb, rfl, separates, inner, items,
      split, rest⟩ := read
    have commaInner : innerKind comma.kind = true := by rw [separates]; rfl
    refine ⟨inline.isInner.append (List.forall_mem_cons.mpr ⟨commaInner, inner⟩), ta :: items, ?_,
      .cons holds rest⟩
    exact .next present inline.commaFree inline.isInner.depth separates split

/-! ### Literals -/

section

variable {fits : Text → Prop}

theorem reads_numeral {n : Nat} {t : Text} (written : t ∈ numeral fits n) :
    t.Reads fun _ tokens => ∃ token, tokens = [token] ∧ token.kind = .integer ∧
      token.value.natural = n ∧ fits token.value := by
  obtain ⟨nonempty, digits, value, fit⟩ := written
  refine (reads_token fun p rest apart =>
    Token.scanFrom_integer p nonempty digits apart.isDigit).imp ?_
  intro source tokens read
  obtain ⟨token, single, kind, same, -⟩ := read
  exact ⟨token, single, kind, same ▸ value, same ▸ fit⟩

theorem reads_signed {c : CodePoint} (sign : c = '+' ∨ c = '-') {n : Nat} {t : Text}
    (written : t ∈ numeral fits n) :
    Text.Reads (c :: t) fun _ tokens => ∃ token number, tokens = [token, number] ∧
      token.kind = .arithmetic ∧ token.value = [c] ∧ number.kind = .integer ∧
        number.value.natural = n ∧ fits number.value := by
  intro before after apart
  obtain ⟨_, scans, number, rfl, kind, value⟩ := reads_numeral written (before ++ [c]) after apart
  obtain ⟨d, ds, rfl⟩ := List.exists_cons_of_ne_nil written.1
  have digit := written.2.1 d List.mem_cons_self
  have signs : Scans before [c] (d :: ds ++ after)
      [placed (Position.start.after before) .arithmetic [c]] := by
    have single : Token.singleKind? c = some .arithmetic := by rcases sign with rfl | rfl <;> rfl
    have alone : (d :: ds ++ after).head?.bind (Token.doubleKind? c) = none := by
      rcases sign with rfl | rfl <;> rfl
    have uncommented : c = '-' → (d :: ds ++ after).head? ≠ some (.char '-') := by
      rintro - ⟨⟩
      exact absurd digit (by decide)
    unfold Scans
    rw [List.singleton_append, Token.scanFrom_single _ single alone uncommented,
      Position.after_append]
    rfl
  exact ⟨_, signs.append scans, _, number, rfl, rfl, rfl, kind, value⟩

/-- The tokens of a literal: what they stand for is read, but for a numeral that is too long. -/
structure WritesLiteral (fits : Text → Prop) (tokens : List Token) (value : Value) : Prop where
  inner : IsInner tokens
  read : Query.literal? tokens = some (.ok value) ∨
    ∃ what, Query.literal? tokens = some (.error what)
  fits : ∀ t ∈ tokens, t.kind = .integer → fits t.value

theorem reads_quoted {quote : CodePoint} (quotes : quote = '\'' ∨ quote = '"') {t : Text}
    (plain : .char '\\' ∉ t) :
    Text.Reads (Token.quoted quote t) fun _ tokens => WritesLiteral fits tokens (.text t) := by
  have stands := Token.standsFor_escape quote plain
  refine (reads_token fun p rest _ => Token.scanFrom_standsFor p quotes stands).imp ?_
  intro source tokens read
  obtain ⟨token, rfl, kind, same, -⟩ := read
  have value : token.value = t := by
    rw [same]
    exact Token.placed_value_of_standsFor .start quotes stands
  exact ⟨by simp [IsInner, kind, innerKind], .inl (by simp [Query.literal?, kind, value]),
    by simp [kind]⟩

theorem number?_integer {t : Token} {n : Int} {negative : Bool} (kind : t.kind = .integer)
    (same : (if negative then -(t.value.natural : Int) else t.value.natural) = n) :
    Query.number? negative t = some (.ok (.integer n)) ∨
      ∃ what, Query.number? negative t = some (.error what) := by
  unfold Query.number?
  rw [kind]
  cases read : t.value.natural? with
  | ok m =>
    obtain ⟨-, rfl⟩ := Text.natural?_eq_ok_iff.mp read
    exact .inl (by rw [← same]; rfl)
  | error what => exact .inr ⟨what, rfl⟩

theorem reads_signedInteger {c : CodePoint} (sign : c = '+' ∨ c = '-') {n : Int} {t : Text}
    (written : t ∈ numeral fits n.natAbs)
    (same : (if c = '-' then -(n.natAbs : Int) else n.natAbs) = n) :
    Text.Reads (c :: t) fun _ tokens => WritesLiteral fits tokens (.integer n) := by
  refine (reads_signed sign written).imp ?_
  intro source tokens read
  obtain ⟨token, number, rfl, signKind, signValue, kind, value, fit⟩ := read
  refine ⟨by simp [IsInner, signKind, kind, innerKind], ?_, by simp [signKind, fit]⟩
  have valued : (if decide (token.value = "-") then -(number.value.natural : Int)
      else number.value.natural) = n := by
    rcases sign with rfl | rfl <;> simpa [signValue, value, Text.ofString] using same
  have read := number?_integer kind valued
  rcases sign with rfl | rfl <;>
    simpa [Query.literal?, signKind, signValue, Text.ofString] using read

theorem reads_integer {n : Int} {t : Text} (written : t ∈ sign n * numeral fits n.natAbs) :
    t.Reads fun _ tokens => WritesLiteral fits tokens (.integer n) := by
  obtain ⟨sgn, signed, digits, written, rfl⟩ := written
  unfold sign at signed
  rcases signed with plus | minus
  · split at plus
    · rename_i positive
      have same : (n.natAbs : Int) = n := Int.natAbs_of_nonneg positive
      rcases plus with rfl | rfl
      · refine (reads_numeral written).imp ?_
        intro source tokens read
        obtain ⟨token, rfl, kind, value, fit⟩ := read
        refine ⟨by simp [IsInner, kind, innerKind], ?_, by simp [fit]⟩
        have valued : (if false then -(token.value.natural : Int) else token.value.natural) = n := by
          simpa [value] using same
        simpa [Query.literal?, kind] using number?_integer kind valued
      · exact reads_signedInteger (.inl rfl) written (by simpa using same)
    · cases plus
  · split at minus
    · obtain rfl := minus
      exact reads_signedInteger (.inr rfl) written (by rw [if_pos rfl]; omega)
    · cases minus

theorem reads_literal {value : Value} (plain : IsLiteral value) {t : Text}
    (written : t ∈ literal fits value) : t.Reads fun _ tokens => WritesLiteral fits tokens value := by
  cases plain with
  | text plain =>
    rcases written with rfl | rfl
    · exact reads_quoted (.inl rfl) plain
    · exact reads_quoted (.inr rfl) plain
  | integer n => exact reads_integer written

end

/-! ### Bodies of clauses -/

theorem inline_of_operator? {kind : TokenKind} {op : Operator}
    (operates : Query.operator? kind = some op) :
    innerKind kind = true ∧ kind ≠ .comma ∧ kind ≠ .dot := by
  unfold Query.operator? at operates
  split at operates <;> first | exact ⟨rfl, by simp, by simp⟩ | cases operates

def ReadsOperator (t : Text) (op : Operator) : Prop :=
  t.Reads fun _ tokens => ∃ token, tokens = [token] ∧ Query.operator? token.kind = some op

theorem readsOperator_single {c : CodePoint} {kind : TokenKind} {op : Operator}
    (found : Token.singleKind? c = some kind) (signless : c ≠ '-')
    (operates : Query.operator? kind = some op) : ReadsOperator [c] op := by
  refine (reads_token fun p rest apart =>
    Token.scanFrom_single p found (apart.doubleKind? c) fun minus => absurd minus signless).imp ?_
  intro source tokens read
  obtain ⟨token, single, rfl, -⟩ := read
  exact ⟨token, single, operates⟩

theorem readsOperator_double {c d : CodePoint} {kind : TokenKind} {op : Operator}
    (found : Token.doubleKind? c d = some kind) (operates : Query.operator? kind = some op) :
    ReadsOperator [c, d] op := by
  refine (reads_token fun p rest _ => Token.scanFrom_double p found).imp ?_
  intro source tokens read
  obtain ⟨token, single, rfl, -⟩ := read
  exact ⟨token, single, operates⟩

theorem reads_operator {op : Operator} {t : Text} (written : t ∈ operator op) :
    ReadsOperator t op := by
  cases op with
  | eq | lt | gt =>
    obtain rfl := written
    exact readsOperator_single rfl (by decide) rfl
  | le | ge =>
    obtain rfl := written
    exact readsOperator_double rfl rfl
  | ne =>
    rcases written with rfl | rfl
    · exact readsOperator_double rfl rfl
    · exact readsOperator_double rfl rfl
  | like =>
    refine (reads_keyword written).imp ?_
    intro source tokens read
    obtain ⟨token, single, kind⟩ := read
    exact ⟨token, single, by rw [kind]; rfl⟩
  | unknown symbol => cases written

theorem comparison?_of_tokens {source : Text} {column literals : List Token} {t : Token}
    {op : Operator} {value : Except Overlong Value} (refers : RefersTo column)
    (operates : Query.operator? t.kind = some op) (writes : Query.literal? literals = some value) :
    Query.comparison? source (column ++ t :: literals) =
      some (value.map (⟨Query.slice source column, op, ·⟩)) := by
  unfold Query.comparison?
  rw [refers.reference? (inline_of_operator? operates).2.2]
  simp [operates, writes]

theorem RefersTo.condition? {source : Text} {column rest : List Token} (refers : RefersTo column)
    {found : Except Overlong Condition}
    (compares : Query.comparison? source (column ++ rest) = some found) :
    Query.condition? source (column ++ rest) = some found := by
  obtain ⟨t, column, rfl⟩ : ∃ t more, column = t :: more := by cases refers <;> simp
  rw [List.cons_append] at compares ⊢
  rw [Query.condition?, compares]

/-- The tokens of a condition: it is read, but for a numeral that is too long. -/
structure WritesCondition (fits : Text → Prop) (source : Text) (tokens : List Token)
    (c : Condition) : Prop where
  present : tokens ≠ []
  read : Query.condition? source tokens = some (.ok c) ∨
    ∃ what, Query.condition? source tokens = some (.error what)
  fits : ∀ t ∈ tokens, t.kind = .integer → fits t.value

theorem reads_comparison {fits : Text → Prop} {c : Condition} (reference : IsReference c.column)
    (plain : IsLiteral c.literal) {t : Text} (written : t ∈ comparison fits c) :
    t.Reads fun source tokens => IsInner tokens ∧ WritesCondition fits source tokens c := by
  obtain ⟨_, ⟨_, ⟨_, ⟨_, rfl, g, gapG, rfl⟩, o, operates, rfl⟩, h, gapH, rfl⟩, l, writes,
    rfl⟩ := written
  have reads := (reads_reference reference).gap gapG.1 gapG.2
    ((reads_operator operates).gap gapH.1 gapH.2 (reads_literal plain writes))
  simp only [List.append_assoc] at reads ⊢
  refine reads.imp ?_
  intro source tokens read
  obtain ⟨column, _, rfl, ⟨refers, sliced⟩, _, literals, rfl, ⟨token, rfl, operates⟩,
    literal⟩ := read
  obtain ⟨inner, -, -⟩ := inline_of_operator? operates
  have found : ∀ {value}, Query.literal? literals = some value →
      Query.condition? source (column ++ token :: literals) = _ := fun {value} read =>
    refers.condition? (comparison?_of_tokens refers operates read)
  refine ⟨refers.isInline.isInner.append (List.forall_mem_cons.mpr ⟨inner, literal.inner⟩),
    by simp, ?_, ?_⟩
  · rcases literal.read with read | ⟨what, read⟩
    · exact .inl (by rw [List.singleton_append, found read, sliced]; rfl)
    · exact .inr ⟨what, by rw [List.singleton_append, found read]; rfl⟩
  · have operator : token.kind ≠ .integer := by
      intro number
      rw [number] at operates
      cases operates
    intro u member number
    rcases List.mem_append.mp member with member | member
    · exact absurd number (refers.kind_ne u member)
    · rcases List.mem_cons.mp member with rfl | member
      · exact absurd number operator
      · exact literal.fits u member number

theorem reads_source {table : Text} {tableAlias : Option Text} (named : IsName table)
    (aliased : ∀ name ∈ tableAlias, IsName name) {t : Text}
    (written : t ∈ source table tableAlias) :
    t.Reads fun _ tokens => IsInner tokens ∧ Query.IsSource tokens table tableAlias := by
  cases tableAlias with
  | none =>
    obtain rfl := written
    refine (reads_name named).imp ?_
    intro source tokens read
    obtain ⟨token, rfl, kind, rfl, -⟩ := read
    exact ⟨by simp [IsInner, kind, innerKind], .bare kind⟩
  | some name =>
    have nameReads := reads_name (aliased name rfl)
    obtain ⟨_, ⟨_, ⟨_, rfl, g, gapG, rfl⟩, as, worded, rfl⟩, _, rfl, rfl⟩ := written
    rcases worded with rfl | ⟨w, spelt, h, gapH, rfl⟩
    · have reads := (reads_name named).gap gapG.1 gapG.2 nameReads
      simp only [List.append_assoc, List.nil_append] at reads ⊢
      refine reads.imp ?_
      intro source tokens read
      obtain ⟨_, _, rfl, ⟨token, rfl, kind, rfl, -⟩, u, rfl, nameKind, rfl, -⟩ := read
      exact ⟨by simp [IsInner, kind, nameKind, innerKind], .aliased kind nameKind⟩
    · have reads := (reads_name named).gap gapG.1 gapG.2
        ((reads_keyword spelt).gap gapH.1 gapH.2 nameReads)
      simp only [List.append_assoc] at reads ⊢
      refine reads.imp ?_
      intro source tokens read
      obtain ⟨_, _, rfl, ⟨token, rfl, kind, rfl, -⟩, _, _, rfl, ⟨word, rfl, wordKind⟩, u, rfl,
        nameKind, rfl, -⟩ := read
      exact ⟨by simp [IsInner, kind, wordKind, nameKind, innerKind], .worded kind wordKind nameKind⟩

theorem reads_sortItem {item : SortItem} (reference : IsReference item.column) {t : Text}
    (written : t ∈ sortItem item) :
    t.Reads fun source tokens =>
      (IsInline tokens ∧ tokens ≠ []) ∧ Query.SortsBy source tokens item := by
  obtain ⟨_, direction⟩ := item
  obtain ⟨column, rfl, w, word, rfl⟩ := written
  have worded : ∀ k, (Query.directionWord direction = .keyword k) → innerKind (.keyword k) = true →
      w ∈ gap * Rendering.word k → Text.Reads (column ++ w) fun source tokens =>
        (IsInline tokens ∧ tokens ≠ []) ∧ Query.SortsBy source tokens ⟨column, direction⟩ := by
    intro k same inner given
    obtain ⟨g, gapG, w, spelt, rfl⟩ := given
    refine ((reads_reference reference).gap gapG.1 gapG.2 (reads_keyword spelt)).imp ?_
    intro source tokens read
    obtain ⟨refs, _, rfl, ⟨refers, rfl⟩, token, rfl, kind⟩ := read
    have inline : IsInline [token] := .single (by rw [kind]; exact inner) (by simp [kind])
    refine ⟨⟨refers.isInline.append inline, by simp⟩, .worded ?_ (kind.trans same.symm)⟩
    cases refers <;> simp
  have wordless : w = [] → direction = .ascending → Text.Reads (column ++ w) fun source tokens =>
      (IsInline tokens ∧ tokens ≠ []) ∧ Query.SortsBy source tokens ⟨column, direction⟩ := by
    rintro rfl rfl
    rw [List.append_nil]
    refine (reads_reference reference).imp ?_
    intro source tokens read
    obtain ⟨refers, rfl⟩ := read
    obtain ⟨front, token, rfl, kind⟩ := refers.concat
    refine ⟨⟨refers.isInline, by simp⟩, .plain fun direction same => ?_⟩
    rw [kind] at same
    cases direction <;> cases same
  cases direction with
  | ascending =>
    rcases word with empty | word
    · exact wordless empty rfl
    · exact worded .asc rfl rfl word
  | descending => exact worded .desc rfl rfl word

end SqlConsole.Rendering
