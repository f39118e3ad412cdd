import SqlConsole.Suggestion.Reference

/-!
# Contexts

Where in an unfinished statement its end lies, seen from the words before it. A context is read
backwards from the end of the text, or from before a newline there.
-/

namespace SqlConsole.Suggestion

/-- The word that is being typed: the text after the last blank or comma. -/
def currentWord (cs : Text) : Text :=
  (cs.reverse.takeWhile fun (c : CodePoint) => !c.isBlank && c != ',').reverse

def isColumnChar (c : CodePoint) : Bool := c.isWord || c == '.'

def isOperatorChar (c : CodePoint) : Bool := c == '=' || c == '!' || c == '<' || c == '>'

def joinOperators : List Text := ["=", "!=", "<>", "<=", ">=", "<", ">"]

/-- A text read backwards, from its end and from before a newline there. -/
def backwards (cs : Text) : List Text :=
  match cs.reverse with
  | .char '\n' :: rest => ['\n' :: rest, rest]
  | reversed => [reversed]

def lastWord (reversed : Text) : Text := (reversed.takeWhile CodePoint.isWord).reverse

/-- Whether a text read backwards ends in one of the words and blanks. -/
def endsInWord (words : List Text) (reversed : Text) : Bool :=
  match afterBlanks? reversed with
  | some rest => words.contains (lastWord rest)
  | none => false

def namesAfter (isPart : CodePoint → Bool) (words : List Text) (cs : Text) : Bool :=
  (backwards cs).any fun reversed => endsInWord words (reversed.dropWhile isPart)

def inCondition (cs : Text) : Bool :=
  namesAfter isColumnChar ["where", "and", "or", "on"] cs

def inTable (cs : Text) : Bool := namesAfter CodePoint.isWord ["from", "join"] cs

def inHaving (cs : Text) : Bool := namesAfter isColumnChar ["having"] cs

/-- Whether a text read backwards, without the part of a name at its end, ends in a join condition
up to its operator. -/
def endsInJoin (reversed : Text) : Bool :=
  let reversed := reversed.trimLeft
  joinOperators.contains (reversed.takeWhile isOperatorChar).reverse &&
    (let left := Text.trimLeft (reversed.dropWhile isOperatorChar)
     left.head?.any isColumnChar && endsInWord ["on"] (left.dropWhile isColumnChar))

def inJoin (cs : Text) : Bool :=
  (backwards cs).any fun reversed => endsInJoin (reversed.dropWhile isColumnChar)

/-- Whether a text is the end of a list of columns: the part of a name, possibly after a comma with
no newline before it. -/
def endsList (cs : Text) : Bool :=
  (backwards cs).any fun reversed =>
    let rest := reversed.dropWhile isColumnChar
    rest == [] ||
      match Text.trimLeft rest with
      | .char ',' :: before => !before.contains (.char '\n')
      | _ => false

/-- What follows the two words of a clause with columns in front of a text that comes after the
code point `before`. -/
def afterListWords? (before : Option CodePoint) (cs : Text) : Option Text :=
  (["group", "order"] : List Text).findSome? fun word => do
    let cs ← afterBlanks? (← afterWord? word before cs)
    afterBlanks? (← afterWord? "by" none cs)

def inListFrom (before : Option CodePoint) : Text → Bool
  | [] => false
  | c :: cs => (afterListWords? before (c :: cs)).any endsList || inListFrom (some c) cs

def inList (cs : Text) : Bool := inListFrom none cs

end SqlConsole.Suggestion
