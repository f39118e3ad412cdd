import SqlConsole.Text.Basic
import SqlConsole.Text.Lowercase.Table

/-!
# Lower case

Each letter has one lower-case letter (`CodePoint.lower`). In running text two letters differ: a
capital I with a dot keeps its dot as a mark of its own, and a capital sigma at the end of a word
becomes a final sigma (`Text.lower`).
-/

namespace SqlConsole

namespace CodePoint

def lower : CodePoint → CodePoint
  | .char c =>
    if c.toNat < 0x80 then .char c.toLower
    else
      match Text.caseRuns.find? fun run =>
        run.first ≤ c.toNat && c.toNat ≤ run.last && (c.toNat - run.first) % run.step == 0 with
      | some run => .char (Char.ofNat (c.toNat + run.offset).toNat)
      | none => .char c
  | .surrogate place => .surrogate place

def isCaseIgnorable (c : CodePoint) : Bool := Text.inRanges Text.caseIgnorableRanges c.code

def isCased (c : CodePoint) : Bool := Text.inRanges Text.casedRanges c.code

end CodePoint

namespace Text

/-- Whether the first code point that a search for a cased letter does not pass over is one. -/
def meetsCased (t : Text) : Bool :=
  (t.dropWhile CodePoint.isCaseIgnorable).head?.any CodePoint.isCased

/-- The lower-case form of a letter between the text before it, read backwards, and the text after
it. -/
def lowerBetween (before : Text) (c : CodePoint) (after : Text) : Text :=
  if c = '\u0130' then ['i', '\u0307']
  else if c = '\u03a3' then
    if meetsCased before && !meetsCased after then ['\u03c2'] else ['\u03c3']
  else [c.lower]

def lowerFrom (before : Text) : Text → Text
  | [] => []
  | c :: after => lowerBetween before c after ++ lowerFrom (c :: before) after

def lower (t : Text) : Text := lowerFrom [] t

end Text

end SqlConsole
