import SqlConsole.Text.Blank
import SqlConsole.Text.Lowercase
import SqlConsole.Text.Word
import SqlConsole.Token.Basic

/-!
# Scanning

A source text is cut into lexemes from left to right: blanks and comments, which give no token, and
the lexemes of tokens. Each lexeme holds at least one code point, and one that starts no other is a
lexeme of its own, so every text is scanned to its end.
-/

namespace SqlConsole

def Position.start : Position := ⟨1, 1, 0⟩

def Position.advance (p : Position) (c : CodePoint) : Position :=
  if c = '\n' then ⟨p.line + 1, 1, p.offset + 1⟩ else ⟨p.line, p.column + 1, p.offset + 1⟩

namespace Token

/-! ### Quoted texts -/

/-- The number of code points of a quoted text after its opening quote, the closing one included. A
backslash takes the code point after it along, which may not be a newline. -/
def quotedLength? (quote : CodePoint) : Text → Option Nat
  | [] => none
  | .char '\\' :: c :: cs => if c = '\n' then none else (quotedLength? quote cs).map (· + 2)
  | c :: cs =>
    if c = quote then some 1
    else if c = '\\' then none
    else (quotedLength? quote cs).map (· + 1)

/-- The text that a quoted text stands for: a backslash before the quote is left out. -/
def unescape (quote : CodePoint) : Text → Text
  | .char '\\' :: c :: cs =>
    if c = quote then quote :: unescape quote cs else '\\' :: unescape quote (c :: cs)
  | c :: cs => c :: unescape quote cs
  | [] => []

/-! ### Lexemes -/

/-- The kind of a lexeme, none if it is blank or a comment, and its length. -/
structure Lexeme where
  kind : Option TokenKind
  length : Nat

/-- The lexeme of a number that starts with the digit before `cs`: decimal if a point with a digit
after it follows the whole digits. -/
def numberLexeme (cs : Text) : Lexeme :=
  let whole := 1 + (cs.takeWhile CodePoint.isDigit).length
  match cs.dropWhile CodePoint.isDigit with
  | .char '.' :: c :: rest =>
    if c.isDigit then ⟨some .decimal, whole + 2 + (rest.takeWhile CodePoint.isDigit).length⟩
    else ⟨some .integer, whole⟩
  | _ => ⟨some .integer, whole⟩

def singleKind? : CodePoint → Option TokenKind
  | .char '=' => some .eq
  | .char '<' => some .lt
  | .char '>' => some .gt
  | .char '*' => some .star
  | .char '+' => some .arithmetic
  | .char '-' => some .arithmetic
  | .char '/' => some .arithmetic
  | .char ',' => some .comma
  | .char ';' => some .semicolon
  | .char '(' => some .openParen
  | .char ')' => some .closeParen
  | .char '.' => some .dot
  | _ => none

def doubleKind? : CodePoint → CodePoint → Option TokenKind
  | .char '!', .char '=' => some .ne
  | .char '<', .char '>' => some .ne
  | .char '<', .char '=' => some .le
  | .char '>', .char '=' => some .ge
  | _, _ => none

def wordKind (word : Text) : TokenKind :=
  match Keyword.ofSpelling? word.lower with
  | some k => .keyword k
  | none => .identifier

/-- The lexeme at the front of the text `c :: cs`. -/
def lexeme (c : CodePoint) (cs : Text) : Lexeme :=
  if c.isBlank then ⟨none, 1 + (cs.takeWhile CodePoint.isBlank).length⟩
  else if c = '-' ∧ cs.head? = some (.char '-') then
    ⟨none, 1 + (cs.takeWhile (· != .char '\n')).length⟩
  else
    match cs.head?.bind (doubleKind? c), singleKind? c with
    | some kind, _ => ⟨some kind, 2⟩
    | none, some kind => ⟨some kind, 1⟩
    | none, none =>
      if c.isDigit then numberLexeme cs
      else if c = '\'' ∨ c = '"' then
        match quotedLength? c cs with
        | some n => ⟨some .text, 1 + n⟩
        | none => ⟨some .stray, 1⟩
      else if c.isWord then
        ⟨some (wordKind (c :: cs.takeWhile CodePoint.isWord)),
          1 + (cs.takeWhile CodePoint.isWord).length⟩
      else ⟨some .stray, 1⟩

def valueOf (kind : TokenKind) (source : Text) : Text :=
  match kind, source with
  | .text, quote :: rest => unescape quote rest.dropLast
  | _, source => source

/-! ### Whole texts -/

/-- The tokens of the text from a place on, after `skip` more code points of the current lexeme. The
last token marks the end. -/
def scanFrom (p : Position) : (skip : Nat) → Text → List Token
  | _, [] => [⟨.stop, [], p.line, p.column, p.offset, p.offset⟩]
  | skip + 1, c :: cs => scanFrom (p.advance c) skip cs
  | 0, c :: cs =>
    let found := lexeme c cs
    let rest := scanFrom (p.advance c) (found.length - 1) cs
    match found.kind with
    | none => rest
    | some kind =>
      ⟨kind, valueOf kind ((c :: cs).take found.length), p.line, p.column,
        p.offset, p.offset + found.length⟩ :: rest

def scan (source : Text) : List Token := scanFrom .start 0 source

/-- The first token that is stray. -/
def firstStray? (tokens : List Token) : Option Token := tokens.find? (·.kind == .stray)

end Token

end SqlConsole
