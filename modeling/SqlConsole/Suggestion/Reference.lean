import SqlConsole.Text.Blank
import SqlConsole.Text.Word

/-!
# Table references

The tables that an unfinished query names, found by their place after the words that introduce them.
The text need not be a statement.
-/

namespace SqlConsole.Suggestion

structure Reference where
  table : Text
  tableAlias : Option Text
  deriving DecidableEq, Repr

def afterBlanks? (cs : Text) : Option Text :=
  match cs with
  | [] => none
  | c :: rest => if c.isBlank then some (Text.trimLeft rest) else none

def wordRun? (cs : Text) : Option (Text × Text) :=
  match cs.takeWhile CodePoint.isWord with
  | [] => none
  | word => some (word, cs.dropWhile CodePoint.isWord)

/-- What follows a word in front of a text that comes after the code point `before`. The word may
not be the end of a longer one. -/
def afterWord? (word : Text) (before : Option CodePoint) (cs : Text) : Option Text :=
  if !before.any CodePoint.isWord && word.isPrefixOf cs then some (cs.drop word.length) else none

def tableAlias? (cs : Text) : Option (Text × Text) := do
  let cs ← afterBlanks? cs
  match (do wordRun? (← afterBlanks? (← afterWord? "as" none cs))) with
  | some found => some found
  | none => wordRun? cs

def reference? (cs : Text) : Option (Reference × Text) := do
  let (table, rest) ← wordRun? (← afterBlanks? cs)
  match tableAlias? rest with
  | some (name, rest) => some (⟨table, some name⟩, rest)
  | none => some (⟨table, none⟩, rest)

/-- The references after an introducing word in a text that comes after the code point `before`, but
for `skip` code points that belong to the last reference. -/
def referencesFrom (word : Text) (before : Option CodePoint) : (skip : Nat) → Text → List Reference
  | _, [] => []
  | skip + 1, c :: cs => referencesFrom word (some c) skip cs
  | 0, c :: cs =>
    match (afterWord? word before (c :: cs)).bind reference? with
    | some (reference, rest) =>
      reference :: referencesFrom word (some c) (cs.length - rest.length) cs
    | none => referencesFrom word (some c) 0 cs

def referencesAfter (word cs : Text) : List Reference := referencesFrom word none 0 cs

def reservedWords : List Text := [
  "where", "group", "order", "limit", "offset", "having", "join", "left", "right", "inner", "outer",
  "full", "cross", "natural", "on", "using", "as", "and", "or", "union", "set", "values"]

/-- A reference without an alias that is a reserved word. -/
def Reference.withoutReserved (r : Reference) : Reference :=
  { r with tableAlias := r.tableAlias.filter fun name => !reservedWords.contains name }

/-- The first table that is selected from and all tables that are joined to it, in order. -/
def tableReferences (cs : Text) : List Reference :=
  ((referencesAfter "from" cs).head?.toList ++ referencesAfter "join" cs).map
    Reference.withoutReserved

end SqlConsole.Suggestion
