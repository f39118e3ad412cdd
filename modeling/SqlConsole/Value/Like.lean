import SqlConsole.Text.Regex

/-!
# Patterns

In a pattern a percent sign stands for any run of code points and an underscore for any one
code point; every other one stands for itself in either case. A pattern is put into a regular
expression between the two ends of a text, and this can always be read (`read?_expression`).
-/

namespace SqlConsole.Like

def piece (p : CodePoint) : Text :=
  if p = '%' then ".*" else if p = '_' then "." else Regex.escape p

def expression (pattern : Text) : Text := "^" ++ pattern.flatMap piece ++ "$"

def step (p : CodePoint) : Regex.Step :=
  if p = '%' then .many .any else if p = '_' then .one .any else .one (.letter p)

theorem readFrom?_piece (before : List Regex.Step) (p : CodePoint) (rest : Text) :
    Regex.readFrom? before (piece p ++ rest) = Regex.readFrom? (step p :: before) rest := by
  unfold piece step
  split
  · rfl
  · split
    · rfl
    · exact Regex.readFrom?_escape before p rest

theorem readFrom?_pieces (before : List Regex.Step) (pattern rest : Text) :
    Regex.readFrom? before (pattern.flatMap piece ++ rest) =
      Regex.readFrom? ((pattern.map step).reverse ++ before) rest := by
  induction pattern generalizing before with
  | nil => rfl
  | cons p pattern ih =>
    rw [List.flatMap_cons, List.append_assoc, readFrom?_piece, ih, List.map_cons,
      List.reverse_cons, List.append_assoc]
    rfl

theorem read?_expression (pattern : Text) :
    Regex.read? (expression pattern) = some (.start :: pattern.map step ++ [.finish]) := by
  have opened : Regex.read? (expression pattern) =
      Regex.readFrom? [.start] (pattern.flatMap piece ++ "$") := rfl
  have closed : ∀ before, Regex.readFrom? before "$" = some (before.reverse ++ [.finish]) := by
    intro before
    exact congrArg some List.reverse_cons
  rw [opened, readFrom?_pieces, closed]
  simp

def compile (pattern : Text) : List Regex.Step :=
  (Regex.read? (expression pattern)).get (by rw [read?_expression, Option.isSome_some])

def matchesText (pattern text : Text) : Bool := Regex.matchesText (compile pattern) text

end SqlConsole.Like
