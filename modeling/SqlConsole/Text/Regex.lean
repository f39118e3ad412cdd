import SqlConsole.Text.Fold

/-!
# Regular expressions

A written expression is read into steps: the two ends of a text, and atoms, each taken once or as
often as it goes. Letters are taken in either case, and the dot takes a newline as well. Of the
operators only these are read; any code point stands for itself behind a backslash.
-/

namespace SqlConsole.Regex

inductive Atom where
  | any
  | letter (c : CodePoint)
  deriving DecidableEq, Repr

inductive Step where
  | start
  | finish
  | one (atom : Atom)
  | many (atom : Atom)
  deriving DecidableEq, Repr

/-! ### Written expressions -/

def operators : Text := ".^$*+?()[\x7b|\\"

/-- Reads the rest of an expression behind the steps that are read, of which the last one comes
first. There are none for an expression that is malformed or has an operator other than the two
ends, the dot and the star. -/
def readFrom? (before : List Step) : Text → Option (List Step)
  | [] => some before.reverse
  | .char '\\' :: c :: rest =>
    if c.isAsciiAlphanum then none else readFrom? (.one (.letter c) :: before) rest
  | .char '^' :: rest => readFrom? (.start :: before) rest
  | .char '$' :: rest => readFrom? (.finish :: before) rest
  | .char '.' :: rest => readFrom? (.one .any :: before) rest
  | .char '*' :: rest =>
    match before with
    | .one atom :: before => readFrom? (.many atom :: before) rest
    | _ => none
  | c :: rest => if c ∈ operators then none else readFrom? (.one (.letter c) :: before) rest

def read? (expression : Text) : Option (List Step) := readFrom? [] expression

/-- The code points that are written behind a backslash: the operators, the marks that have a
meaning inside brackets, and blanks. -/
def escaped : Text := "()[]\x7b\x7d?*+-|^$\\.&~# \t\n\r\x0b\x0c"

def escape (c : CodePoint) : Text := if c ∈ escaped then [.char '\\', c] else [c]

/-- A code point that is written by itself is no operator, and one behind a backslash is neither a
letter nor a digit, which would have a meaning there. -/
theorem readFrom?_escape (before : List Step) (c : CodePoint) (rest : Text) :
    readFrom? before (escape c ++ rest) = readFrom? (.one (.letter c) :: before) rest := by
  have solid : ∀ c ∈ escaped, c.isAsciiAlphanum = false := by decide
  have covered : ∀ c ∈ operators, c ∈ escaped := by decide
  unfold escape
  split
  · rename_i special
    rw [List.cons_append, List.cons_append, List.nil_append, readFrom?]
    simp [solid c special]
  · rename_i plain
    have alone : c ∉ operators := fun operator => plain (covered c operator)
    have apart : ∀ mark ∈ operators, c ≠ mark := fun mark operator same => alone (same ▸ operator)
    rw [List.cons_append, List.nil_append, readFrom?, if_neg alone]
    · rintro d tail rfl -
      exact apart _ (by decide) rfl
    all_goals exact apart _ (by decide)

/-! ### Matching -/

def Atom.takes : Atom → CodePoint → Bool
  | any, _ => true
  | letter c, d => c.sameLetter d

/-- Whether code points that an atom takes lead to a place that passes a test, the longest run of
them first. A place is given by whether the text starts there and by what is left of it. -/
def Atom.run (atom : Atom) (test : Bool → Text → Bool) : Bool → Text → Bool
  | atStart, [] => test atStart []
  | atStart, c :: text => (atom.takes c && atom.run test false text) || test atStart (c :: text)

/-- Whether steps can be taken from a place. The end of a text is also before a newline that ends
it. -/
def leads : List Step → Bool → Text → Bool
  | [], _, _ => true
  | .start :: steps, atStart, text => atStart && leads steps atStart text
  | .finish :: steps, atStart, text => (text == [] || text == "\n") && leads steps atStart text
  | .one atom :: steps, _, text =>
    match text with
    | [] => false
    | c :: text => atom.takes c && leads steps false text
  | .many atom :: steps, atStart, text => atom.run (leads steps) atStart text

def matchesText (steps : List Step) (text : Text) : Bool := leads steps true text

end SqlConsole.Regex
