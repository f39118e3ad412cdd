import Mathlib.Computability.Language
import SqlConsole.Proofs.Suggestion.Scan

/-!
# Positions in an unfinished query

The texts whose end lies behind certain words, written as patterns (`tablePosition` and the others).
A text is read backwards to find out whether it is one of them, and unless it ends in a newline this
is found out exactly (`inTable_iff` and the others).
-/

namespace SqlConsole.Suggestion

/-! ### Patterns -/

def many (p : CodePoint → Bool) : Language CodePoint := {t : Text | ∀ c ∈ t, p c = true}

def run (p : CodePoint → Bool) : Language CodePoint := {t : Text | t ≠ [] ∧ ∀ c ∈ t, p c = true}

def oneOf (words : List Text) : Language CodePoint := {t | t ∈ words}

def front : Language CodePoint := {t : Text | ∀ c ∈ t.getLast?, c.isWord = false}

def inLine : Language CodePoint := {t : Text | .char '\n' ∉ t}

def behind (words : List Text) : Language CodePoint :=
  front * oneOf words * run CodePoint.isBlank

def tablePosition : Language CodePoint := behind ["from", "join"] * many CodePoint.isWord

def conditionPosition : Language CodePoint :=
  behind ["where", "and", "or", "on"] * many isColumnChar

def havingPosition : Language CodePoint := behind ["having"] * many isColumnChar

def behindOperator : Language CodePoint :=
  behind ["on"] * run isColumnChar * many CodePoint.isBlank * oneOf joinOperators *
    many CodePoint.isBlank

def joinPosition : Language CodePoint := behindOperator * many isColumnChar

/-- A column, or a list of columns in one line up to the last one, which may be in the next. -/
def columnList : Language CodePoint :=
  (1 + inLine * oneOf [","] * many CodePoint.isBlank) * many isColumnChar

def listPosition : Language CodePoint :=
  behind ["group", "order"] * oneOf ["by"] * run CodePoint.isBlank * columnList

/-! ### Reading backwards -/

variable {l m : Language CodePoint} {p q : CodePoint → Bool} {cs reversed : Text}
  {words : List Text}

/-- Whether no code point is of both kinds. -/
def Apart (p q : CodePoint → Bool) : Prop := ∀ c, p c = true → q c = false

theorem Apart.symm (apart : Apart p q) : Apart q p := by
  intro c kind
  by_contra other
  rw [apart c (by simpa using other)] at kind
  cases kind

/-- Whether no text of a pattern ends in a code point of a kind. -/
def StopsBefore (p : CodePoint → Bool) (l : Language CodePoint) : Prop :=
  ∀ t ∈ l, ∀ c ∈ t.getLast?, p c = false

theorem StopsBefore.mul (left : StopsBefore p l) (right : StopsBefore p m) :
    StopsBefore p (l * m) := by
  rintro _ ⟨a, first, b, second, rfl⟩ c last
  rw [Option.mem_def, List.getLast?_append, Option.or_eq_some_iff] at last
  rcases last with last | ⟨-, last⟩
  · exact right b second c last
  · exact left a first c last

theorem StopsBefore.mul_filled (right : StopsBefore p m) (filled : ∀ t ∈ m, t ≠ []) :
    StopsBefore p (l * m) := by
  rintro _ ⟨a, -, b, second, rfl⟩ c last
  rw [Option.mem_def, List.getLast?_append, Option.or_eq_some_iff] at last
  rcases last with last | ⟨empty, -⟩
  · exact right b second c last
  · exact absurd (List.getLast?_eq_none_iff.mp empty) (filled b second)

theorem Apart.many (apart : Apart q p) : StopsBefore p (many q) :=
  fun _ all c last => apart c (all c (List.mem_of_getLast? last))

theorem Apart.mul_run (apart : Apart q p) : StopsBefore p (l * run q) :=
  .mul_filled (fun _ all c last => apart c (all.2 c (List.mem_of_getLast? last)))
    (fun _ all => all.1)

theorem Apart.mul_oneOf (apart : Apart q p) (runs : ∀ w ∈ words, w ∈ run q) :
    StopsBefore p (l * oneOf words) :=
  .mul_filled (fun w member c last => apart c ((runs w member).2 c (List.mem_of_getLast? last)))
    (fun w member => (runs w member).1)

theorem reverse_append_takeWhile (p : CodePoint → Bool) (cs : Text) :
    (cs.reverse.dropWhile p).reverse ++ (cs.reverse.takeWhile p).reverse = cs := by
  rw [← List.reverse_append, List.takeWhile_append_dropWhile, List.reverse_reverse]

theorem reverse_takeWhile_mem_many (p : CodePoint → Bool) (cs : Text) :
    (cs.reverse.takeWhile p).reverse ∈ many p :=
  fun _ member => List.mem_takeWhile_imp (List.mem_reverse.mp member)

theorem span_reverse_append {a b : Text} (stop : ∀ c ∈ a.getLast?, p c = false) (all : b ∈ many p) :
    (a ++ b).reverse.takeWhile p = b.reverse ∧ (a ++ b).reverse.dropWhile p = a.reverse := by
  rw [List.reverse_append]
  refine span_append (fun c member => all c (List.mem_reverse.mp member)) ?_
  rwa [List.head?_reverse]

theorem mem_mul_many_iff (stops : StopsBefore p l) :
    cs ∈ l * many p ↔ (cs.reverse.dropWhile p).reverse ∈ l := by
  constructor
  · rintro ⟨a, first, b, all, rfl⟩
    rw [(span_reverse_append (stops a first) all).2, List.reverse_reverse]
    exact first
  · intro first
    exact ⟨_, first, _, reverse_takeWhile_mem_many p cs, reverse_append_takeWhile p cs⟩

theorem mem_mul_run_iff (stops : StopsBefore p l) :
    cs ∈ l * run p ↔
      cs.reverse.head?.any p = true ∧ (cs.reverse.dropWhile p).reverse ∈ l := by
  constructor
  · rintro ⟨a, first, b, ⟨filled, all⟩, rfl⟩
    refine ⟨?_, (mem_mul_many_iff stops).mp ⟨a, first, b, all, rfl⟩⟩
    obtain ⟨c, rest, same⟩ := List.exists_cons_of_ne_nil (mt List.reverse_eq_nil_iff.mp filled)
    have last := all c (List.mem_reverse.mp (by rw [same]; exact List.mem_cons_self))
    simp [same, last]
  · rintro ⟨last, first⟩
    refine ⟨_, first, _, ⟨?_, reverse_takeWhile_mem_many p cs⟩, reverse_append_takeWhile p cs⟩
    cases same : cs.reverse with
    | nil => simp [same] at last
    | cons c rest =>
      have kind : p c = true := by simpa [same] using last
      simp [kind]

theorem mem_mul_oneOf_iff (stops : StopsBefore p l) (all : ∀ w ∈ words, w ∈ many p) :
    cs ∈ l * oneOf words ↔
      (cs.reverse.takeWhile p).reverse ∈ words ∧ (cs.reverse.dropWhile p).reverse ∈ l := by
  constructor
  · rintro ⟨a, first, w, member, rfl⟩
    obtain ⟨taken, left⟩ := span_reverse_append (stops a first) (all w member)
    rw [taken, left, List.reverse_reverse, List.reverse_reverse]
    exact ⟨member, first⟩
  · rintro ⟨member, first⟩
    exact ⟨_, first, _, member, reverse_append_takeWhile p cs⟩

/-! ### Words and blanks -/

theorem stopsBefore_front : StopsBefore CodePoint.isWord front := fun _ edge => edge

theorem isBlank_apart_isWord : Apart CodePoint.isBlank CodePoint.isWord :=
  fun _ => CodePoint.isWord_of_isBlank

theorem endsInWord_iff (runs : ∀ w ∈ words, IsRun w) :
    endsInWord words reversed = true ↔ reversed.reverse ∈ behind words := by
  have reads : endsInWord words reversed = true ↔ reversed.head?.any CodePoint.isBlank = true ∧
      lastWord (reversed.dropWhile CodePoint.isBlank) ∈ words := by
    unfold endsInWord
    split
    · rename_i rest found
      obtain ⟨blank, rfl⟩ := afterBlanks?_eq_some_iff.mp found
      simp [blank]
    · rename_i missing
      have solid : reversed.head?.any CodePoint.isBlank ≠ true :=
        fun blank => by simp [afterBlanks?_eq_some_iff.mpr ⟨blank, rfl⟩] at missing
      simp [solid]
  have edge : ∀ t : Text, (t.dropWhile CodePoint.isWord).reverse ∈ front := by
    intro t c last
    rw [List.getLast?_reverse] at last
    simpa [Option.mem_def.mp last] using List.head?_dropWhile_not CodePoint.isWord t
  rw [reads, behind, mem_mul_run_iff (isBlank_apart_isWord.symm.mul_oneOf runs),
    mem_mul_oneOf_iff stopsBefore_front fun w member => (runs w member).2]
  simp only [List.reverse_reverse]
  rw [and_iff_left (edge _)]
  rfl

/-! ### Names behind a word -/

theorem backwards_of_unended (unended : cs.getLast? ≠ some (.char '\n')) :
    backwards cs = [cs.reverse] := by
  unfold backwards
  split
  · rename_i rest same
    rw [List.getLast?_eq_head?_reverse, same] at unended
    exact absurd rfl unended
  · rfl

theorem Apart.behind (apart : Apart CodePoint.isBlank p) (words : List Text) :
    StopsBefore p (behind words) := apart.mul_run

theorem namesAfter_iff (unended : cs.getLast? ≠ some (.char '\n'))
    (apart : Apart CodePoint.isBlank p) (runs : ∀ w ∈ words, IsRun w) :
    namesAfter p words cs = true ↔ cs ∈ behind words * many p := by
  rw [mem_mul_many_iff (apart.behind words), ← endsInWord_iff runs, namesAfter,
    backwards_of_unended unended, List.any_cons, List.any_nil, Bool.or_false]

theorem isBlank_apart_isColumnChar : Apart CodePoint.isBlank isColumnChar := by
  intro c blank
  have point : c ≠ '.' := by
    rintro rfl
    exact absurd blank (by decide)
  simp [isColumnChar, CodePoint.isWord_of_isBlank blank, point]

theorem inTable_iff (unended : cs.getLast? ≠ some (.char '\n')) :
    inTable cs = true ↔ cs ∈ tablePosition :=
  namesAfter_iff unended isBlank_apart_isWord (by decide +kernel)

theorem inCondition_iff (unended : cs.getLast? ≠ some (.char '\n')) :
    inCondition cs = true ↔ cs ∈ conditionPosition :=
  namesAfter_iff unended isBlank_apart_isColumnChar (by decide +kernel)

theorem inHaving_iff (unended : cs.getLast? ≠ some (.char '\n')) :
    inHaving cs = true ↔ cs ∈ havingPosition :=
  namesAfter_iff unended isBlank_apart_isColumnChar (by decide +kernel)

/-! ### Join conditions -/

theorem isOperatorChar_apart : Apart isOperatorChar CodePoint.isBlank ∧
    Apart isOperatorChar isColumnChar := by
  have four : ∀ c ∈ ['=', '!', '<', '>'].map CodePoint.char,
      c.isBlank = false ∧ isColumnChar c = false := by decide +kernel
  have member : ∀ c, isOperatorChar c = true → c ∈ ['=', '!', '<', '>'].map CodePoint.char := by
    intro c operator
    simpa [isOperatorChar, or_assoc] using operator
  exact ⟨fun c operator => (four c (member c operator)).1,
    fun c operator => (four c (member c operator)).2⟩

theorem joinOperators_mem_run : ∀ w ∈ joinOperators, w ∈ run isOperatorChar := by
  have all : ∀ w ∈ joinOperators, w ≠ [] ∧ ∀ c ∈ w, isOperatorChar c = true := by decide
  exact all

theorem endsInJoin_iff :
    endsInJoin reversed = true ↔ reversed.reverse ∈ behindOperator := by
  obtain ⟨operatorBlank, operatorColumn⟩ := isOperatorChar_apart
  rw [behindOperator, mem_mul_many_iff (operatorBlank.mul_oneOf joinOperators_mem_run),
    mem_mul_oneOf_iff (operatorColumn.symm.mul_run.mul operatorBlank.symm.many)
      fun w member => (joinOperators_mem_run w member).2,
    mem_mul_many_iff isBlank_apart_isColumnChar.symm.mul_run,
    mem_mul_run_iff (isBlank_apart_isColumnChar.behind _), ← endsInWord_iff (by decide)]
  simp only [List.reverse_reverse, endsInJoin, Text.trimLeft, Bool.and_eq_true,
    List.contains_iff_mem]

theorem stopsBefore_behindOperator : StopsBefore isColumnChar behindOperator :=
  (isOperatorChar_apart.2.mul_oneOf joinOperators_mem_run).mul isBlank_apart_isColumnChar.many

theorem inJoin_iff (unended : cs.getLast? ≠ some (.char '\n')) :
    inJoin cs = true ↔ cs ∈ joinPosition := by
  rw [joinPosition, mem_mul_many_iff stopsBefore_behindOperator, ← endsInJoin_iff, inJoin,
    backwards_of_unended unended, List.any_cons, List.any_nil, Bool.or_false]

/-! ### Lists of columns -/

theorem comma_apart : CodePoint.isBlank ',' = false ∧ isColumnChar ',' = false := by decide +kernel

theorem mem_mul_comma_iff :
    reversed.reverse ∈ inLine * oneOf [","] ↔
      ∃ before, reversed = .char ',' :: before ∧ .char '\n' ∉ before := by
  constructor
  · rintro ⟨line, whole, w, member, same⟩
    obtain rfl : w = "," := List.mem_singleton.mp member
    refine ⟨line.reverse, ?_, fun newline => whole (List.mem_reverse.mp newline)⟩
    rw [← List.reverse_inj, ← same]
    simp [Text.ofString]
  · rintro ⟨before, rfl, whole⟩
    refine ⟨before.reverse, fun newline => whole (List.mem_reverse.mp newline), ",",
      List.mem_singleton_self _, ?_⟩
    simp [Text.ofString]

theorem stopsBefore_comma (comma : p ',' = false) : StopsBefore p (l * oneOf [","]) := by
  refine .mul_filled ?_ ?_
  · intro w member c last
    obtain rfl : w = "," := List.mem_singleton.mp member
    cases last
    exact comma
  · intro w member
    obtain rfl : w = "," := List.mem_singleton.mp member
    exact List.cons_ne_nil _ _

theorem endsList_iff (unended : cs.getLast? ≠ some (.char '\n')) :
    endsList cs = true ↔ cs ∈ columnList := by
  obtain ⟨commaBlank, commaColumn⟩ := comma_apart
  have listed : StopsBefore isColumnChar (inLine * oneOf [","] * many CodePoint.isBlank) :=
    (stopsBefore_comma commaColumn).mul isBlank_apart_isColumnChar.many
  have stops : StopsBefore isColumnChar (1 + inLine * oneOf [","] * many CodePoint.isBlank) := by
    rintro t (rfl | member) c last
    · cases last
    · exact listed t member c last
  rw [columnList, mem_mul_many_iff stops, Language.mem_add, Language.mem_one,
    mem_mul_many_iff (stopsBefore_comma commaBlank), mem_mul_comma_iff, endsList,
    backwards_of_unended unended, List.any_cons, List.any_nil, Bool.or_false, Bool.or_eq_true,
    beq_iff_eq, List.reverse_eq_nil_iff, List.reverse_reverse]
  refine or_congr_right ?_
  unfold Text.trimLeft
  split
  · rename_i before same
    simp [same]
  · rename_i other
    constructor
    · nofun
    · rintro ⟨before, same, -⟩
      exact absurd same (other before)

theorem trimLeft_mem_columnList (listed : cs ∈ columnList) : cs.trimLeft ∈ columnList := by
  obtain ⟨_, rfl | ⟨_, ⟨line, whole, w, member, rfl⟩, gap, blanks, rfl⟩, name, part, rfl⟩ := listed
  · have solid : ∀ c ∈ name.head?, c.isBlank = false := fun c head =>
      isBlank_apart_isColumnChar.symm c (part c (List.mem_of_mem_head? head))
    change Text.trimLeft name ∈ columnList
    rw [Text.trimLeft_eq_self solid]
    exact ⟨[], .inl rfl, name, part, rfl⟩
  · obtain rfl : w = "," := List.mem_singleton.mp member
    have kept : Text.trimLeft (line ++ Text.ofString "," ++ gap ++ name) =
        Text.trimLeft line ++ Text.ofString "," ++ gap ++ name := by
      simp only [List.append_assoc]
      exact Text.trimLeft_append_solid line comma_apart.1
    dsimp only
    rw [kept]
    refine ⟨_, .inr ⟨_, ⟨Text.trimLeft line, ?_, _, member, rfl⟩, gap, blanks, rfl⟩, name, part,
      rfl⟩
    exact fun newline => whole ((List.dropWhile_suffix _).subset newline)

/-! ### Clauses with columns -/

theorem afterBlanks?_eq_some_iff_exists {rest : Text} :
    afterBlanks? cs = some rest ↔
      ∃ gap ∈ run CodePoint.isBlank, ∃ tail : Text, gap ++ tail = cs ∧ tail.trimLeft = rest := by
  rw [afterBlanks?_eq_some_iff]
  constructor
  · rintro ⟨head, rfl⟩
    cases cs with
    | nil => cases head
    | cons c cs =>
      have blank : c.isBlank = true := by simpa using head
      exact ⟨[c], ⟨List.cons_ne_nil c [], by simpa using blank⟩, cs, rfl,
        (List.dropWhile_cons_of_pos blank).symm⟩
  · rintro ⟨gap, ⟨filled, blanks⟩, tail, rfl, rfl⟩
    refine ⟨?_, List.dropWhile_append_of_pos blanks⟩
    obtain ⟨c, cs, rfl⟩ := List.exists_cons_of_ne_nil filled
    simpa using blanks c List.mem_cons_self

theorem afterListWord?_iff {word rest : Text} {before : Option CodePoint} :
    (do let cs ← afterBlanks? (← afterWord? word before cs)
        afterBlanks? (← afterWord? "by" none cs)) = some rest ↔
      before.any CodePoint.isWord = false ∧ ∃ gap ∈ run CodePoint.isBlank,
        ∃ gap' ∈ run CodePoint.isBlank, ∃ tail : Text,
          word ++ gap ++ "by" ++ gap' ++ tail = cs ∧ tail.trimLeft = rest := by
  simp only [Option.bind_eq_bind, Option.bind_eq_some_iff, afterWord?_eq_some_iff,
    afterBlanks?_eq_some_iff_exists]
  constructor
  · rintro ⟨_, ⟨edge, rfl⟩, _, ⟨gap, blanks, behind, rfl, rfl⟩, _, ⟨-, same⟩, gap', blanks', tail,
      rfl, rfl⟩
    -- The gap behind the first word is as long as it can be.
    obtain ⟨more, wider, left⟩ := Text.exists_trimLeft behind
    refine ⟨edge, gap ++ more, ⟨?_, ?_⟩, gap', blanks', tail, ?_, rfl⟩
    · exact mt (fun empty => (List.append_eq_nil_iff.mp empty).1) blanks.1
    · exact Text.AllBlank.append blanks.2 wider
    · rw [left, ← same]
      simp
  · rintro ⟨edge, gap, blanks, gap', blanks', tail, rfl, rfl⟩
    refine ⟨_, ⟨edge, ?_⟩, _, ⟨gap, blanks, "by" ++ (gap' ++ tail), rfl, rfl⟩, gap' ++ tail,
      ⟨rfl, ?_⟩, gap', blanks', tail, rfl, rfl⟩
    · simp
    · exact (Text.trimLeft_eq_self (by rintro c ⟨⟩; decide)).symm

theorem afterListWords?_eq_some_iff {rest : Text} {before : Option CodePoint} :
    afterListWords? before cs = some rest ↔
      before.any CodePoint.isWord = false ∧ ∃ word ∈ (["group", "order"] : List Text),
        ∃ gap ∈ run CodePoint.isBlank, ∃ gap' ∈ run CodePoint.isBlank, ∃ tail : Text,
          word ++ gap ++ "by" ++ gap' ++ tail = cs ∧ tail.trimLeft = rest := by
  constructor
  · intro found
    obtain ⟨word, member, found⟩ := List.exists_of_findSome?_eq_some found
    obtain ⟨edge, clause⟩ := afterListWord?_iff.mp found
    exact ⟨edge, word, member, clause⟩
  · rintro ⟨edge, word, member, clause⟩
    have found := afterListWord?_iff.mpr ⟨edge, clause⟩
    rcases List.mem_pair.mp member with rfl | rfl
    · exact List.findSome?_eq_some_iff.mpr ⟨[], _, _, rfl, found, nofun⟩
    · have other : afterWord? "group" before cs = none := by
        obtain ⟨gap, -, gap', -, tail, rfl, -⟩ := clause
        refine Option.eq_none_iff_forall_ne_some.mpr fun rest read => ?_
        exact absurd (afterWord?_eq_some_iff.mp read).2 (by simp [Text.ofString])
      refine List.findSome?_eq_some_iff.mpr ⟨["group"], _, [], rfl, found, ?_⟩
      simp [other]

theorem unended_of_suffix {rest : Text} (unended : cs.getLast? ≠ some (.char '\n'))
    (suffix : rest <:+ cs) : rest.getLast? ≠ some (.char '\n') := by
  obtain ⟨start, rfl⟩ := suffix
  intro newline
  rw [List.getLast?_append, newline] at unended
  exact unended rfl

theorem any_endsList_iff (unended : cs.getLast? ≠ some (.char '\n')) {before : Option CodePoint} :
    (afterListWords? before cs).any endsList = true ↔
      before.any CodePoint.isWord = false ∧ cs ∈ oneOf ["group", "order"] *
        run CodePoint.isBlank * oneOf ["by"] * run CodePoint.isBlank * columnList := by
  rw [Option.any_eq_true]
  constructor
  · rintro ⟨rest, found, ends⟩
    obtain ⟨edge, word, member, gap, blanks, gap', ⟨filled, blanks'⟩, tail, rfl, rfl⟩ :=
      afterListWords?_eq_some_iff.mp found
    -- The blanks that are trimmed off the list of columns belong to the gap in front of it.
    obtain ⟨more, wider, whole⟩ := Text.exists_trimLeft tail
    have tailUnended := unended_of_suffix unended (List.suffix_append _ tail)
    refine ⟨edge, _, ⟨_, ⟨_, ⟨_, member, _, blanks, rfl⟩, "by", List.mem_singleton_self _, rfl⟩,
      gap' ++ more, ⟨?_, Text.AllBlank.append blanks' wider⟩, rfl⟩, Text.trimLeft tail, ?_, ?_⟩
    · exact mt (fun empty => (List.append_eq_nil_iff.mp empty).1) filled
    · exact (endsList_iff (unended_of_suffix tailUnended (List.dropWhile_suffix _))).mp ends
    · dsimp only
      rw [← List.append_assoc, List.append_assoc _ more, ← whole]
  · rintro ⟨edge, _, ⟨_, ⟨_, ⟨word, member, gap, blanks, rfl⟩, w, only, rfl⟩, gap', blanks', rfl⟩,
      tail, listed, rfl⟩
    obtain rfl : w = "by" := List.mem_singleton.mp only
    have tailUnended := unended_of_suffix unended (List.suffix_append _ tail)
    refine ⟨_, afterListWords?_eq_some_iff.mpr
      ⟨edge, word, member, gap, blanks, gap', blanks', tail, rfl, rfl⟩, ?_⟩
    exact (endsList_iff (unended_of_suffix tailUnended (List.dropWhile_suffix _))).mpr
      (trimLeft_mem_columnList listed)

theorem inListFrom_iff {before : Option CodePoint} :
    inListFrom before cs = true ↔
      ∃ start rest : Text, start ++ rest = cs ∧
        (afterListWords? (start.getLast?.or before) rest).any endsList = true := by
  induction cs generalizing before with
  | nil =>
    constructor
    · nofun
    · rintro ⟨start, rest, same, found⟩
      obtain ⟨rfl, rfl⟩ := List.append_eq_nil_iff.mp same
      cases before.any CodePoint.isWord <;>
        simp [afterListWords?, afterWord?, Text.ofString] at found
  | cons c cs ih =>
    have later : ∀ start : Text, (c :: start).getLast?.or before = start.getLast?.or (some c) := by
      intro start
      cases last : start.getLast? <;> simp [List.getLast?_cons, last]
    rw [inListFrom, Bool.or_eq_true, ih]
    constructor
    · rintro (found | ⟨start, rest, rfl, found⟩)
      · exact ⟨[], c :: cs, rfl, found⟩
      · exact ⟨c :: start, rest, rfl, by rwa [later]⟩
    · rintro ⟨start, rest, same, found⟩
      cases start with
      | nil =>
        obtain rfl : rest = c :: cs := same
        exact .inl found
      | cons d start =>
        obtain ⟨rfl, rfl⟩ := List.cons.inj same
        exact .inr ⟨start, rest, rfl, by rwa [later] at found⟩

theorem inList_iff (unended : cs.getLast? ≠ some (.char '\n')) :
    inList cs = true ↔ cs ∈ listPosition := by
  have edge : ∀ start : Text,
      (start.getLast?.or none).any CodePoint.isWord = false ↔ start ∈ front := by
    intro start
    rw [Option.or_none, Option.any_eq_false]
    exact Iff.rfl
  rw [inList, inListFrom_iff, listPosition, behind]
  simp only [mul_assoc]
  constructor
  · rintro ⟨start, rest, rfl, found⟩
    obtain ⟨apart, clause⟩ := (any_endsList_iff (unended_of_suffix unended
      (List.suffix_append start rest))).mp found
    simp only [mul_assoc] at clause
    exact ⟨start, (edge start).mp apart, rest, clause, rfl⟩
  · rintro ⟨start, apart, rest, clause, rfl⟩
    refine ⟨start, rest, rfl, (any_endsList_iff (unended_of_suffix unended
      (List.suffix_append start rest))).mpr ⟨(edge start).mpr apart, ?_⟩⟩
    simp only [mul_assoc]
    exact clause

end SqlConsole.Suggestion
