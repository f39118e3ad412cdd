import SqlConsole.Text.Digit
import SqlConsole.Text.Word.Table

/-!
# Words

Word characters are the letters and numerals of all scripts and the underscore. A name is a run of
them that does not start with a decimal digit.
-/

namespace SqlConsole

def CodePoint.isWord (c : CodePoint) : Bool :=
  if c.code < 0x80 then c.isAsciiAlphanum || c == '_' else Text.inRanges Text.wordRanges c.code

def CodePoint.isWordStart (c : CodePoint) : Bool := c.isWord && !c.isDigit

def Text.leadingName : Text → Text
  | [] => []
  | c :: cs => if c.isWordStart then c :: cs.takeWhile CodePoint.isWord else []

end SqlConsole
