import SqlConsole.Text.Digit
import SqlConsole.Text.Printable.Table

/-!
# Quoted text

Text inside a list, a mapping or a token report is written between quotes: what cannot be shown is
escaped, and the quote is the one that needs no escape if there is such a one.
-/

namespace SqlConsole

def CodePoint.isPrintable (c : CodePoint) : Bool :=
  if c.code < 0x80 then 0x20 ≤ c.code && c.code < 0x7f
  else Text.inRanges Text.printableRanges c.code

namespace Text

def hexadecimal : (width n : Nat) → Text
  | 0, _ => []
  | width + 1, n => hexadecimal width (n / 16) ++ [.char (Nat.digitChar (n % 16))]

def escapeCode (code : Nat) : Text :=
  if code < 0x100 then '\\' :: 'x' :: hexadecimal 2 code
  else if code < 0x10000 then '\\' :: 'u' :: hexadecimal 4 code
  else '\\' :: 'U' :: hexadecimal 8 code

def escape (quote c : CodePoint) : Text :=
  if c = quote ∨ c = '\\' then ['\\', c]
  else if c = '\n' then ['\\', 'n']
  else if c = '\r' then ['\\', 'r']
  else if c = '\t' then ['\\', 't']
  else if c.isPrintable then [c]
  else escapeCode c.code

def quoteFor (t : Text) : CodePoint :=
  if .char '\'' ∈ t ∧ .char '"' ∉ t then '"' else '\''

def quote (t : Text) : Text := quoteFor t :: t.flatMap (escape (quoteFor t)) ++ [quoteFor t]

end Text

end SqlConsole
