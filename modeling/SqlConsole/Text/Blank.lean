import SqlConsole.Text.Basic
import SqlConsole.Text.CodeRange

/-!
# Blanks

White space in the wide sense: the separators of all scripts and the controls that move to another
line or column. Text is trimmed and cut into words at blanks.
-/

namespace SqlConsole

/-- The ranges of the blank characters. U+200B and U+FEFF are not among them. -/
def Text.blankRanges : List Text.CodeRange := [
  (0x9, 0xd), (0x1c, 0x20), (0x85, 0x85), (0xa0, 0xa0), (0x1680, 0x1680), (0x2000, 0x200a),
  (0x2028, 0x2029), (0x202f, 0x202f), (0x205f, 0x205f), (0x3000, 0x3000)]

def CodePoint.isBlank (c : CodePoint) : Bool := Text.inRanges Text.blankRanges c.code

namespace Text

def trimLeft (t : Text) : Text := t.dropWhile CodePoint.isBlank

def trimRight (t : Text) : Text := (trimLeft t.reverse).reverse

def trim (t : Text) : Text := trimRight (trimLeft t)

def words : Text → List Text
  | [] => []
  | c :: cs =>
    if c.isBlank then words cs
    else
      match cs with
      | [] => [[c]]
      | d :: _ =>
        if d.isBlank then [c] :: words cs
        else
          match words cs with
          | [] => [[c]]
          | w :: ws => (c :: w) :: ws

end Text

end SqlConsole
