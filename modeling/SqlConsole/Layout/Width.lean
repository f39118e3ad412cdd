import SqlConsole.Text.Basic
import SqlConsole.Text.CodeRange

/-!
# Display width

The number of terminal columns that a text takes up. Ideographs, kana and full-width forms take two.
-/

namespace SqlConsole.Layout

/-- The characters that take two columns: ideographs, hiragana, katakana and full-width forms. -/
def wideRanges : List Text.CodeRange := [
  (0x4e00, 0x9fff), (0x3040, 0x309f), (0x30a0, 0x30ff), (0xff00, 0xff9f)]

def codeWidth (c : CodePoint) : Nat := if Text.inRanges wideRanges c.code then 2 else 1

def displayWidth : Text → Nat
  | [] => 0
  | c :: cs => codeWidth c + displayWidth cs

def spaces (n : Nat) : Text := List.replicate n ' '

def hyphens (n : Nat) : Text := List.replicate n '-'

/-- A text with spaces behind it, up to a number of columns. Nothing is cut off. -/
def padTo (t : Text) (width : Nat) : Text := t ++ spaces (width - displayWidth t)

def padRight (t : Text) (length : Nat) : Text := t ++ spaces (length - t.length)

def padLeft (t : Text) (length : Nat) : Text := spaces (length - t.length) ++ t

end SqlConsole.Layout
