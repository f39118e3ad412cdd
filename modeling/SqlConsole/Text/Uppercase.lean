import SqlConsole.Text.Basic

/-!
# Upper case

Names of ASCII that are compared in upper case. Some letters beyond ASCII have an upper-case form of
ASCII too; no other letter beyond ASCII is part of such a name in any case.
-/

namespace SqlConsole

namespace Text

/-- The letters beyond ASCII whose upper-case form is of ASCII, each with this form: the sharp s,
the dotless i, the long s and the ligatures. -/
def uppercasePairs : List (Nat × Text) := [
  (0xdf, "SS"), (0x131, "I"), (0x17f, "S"), (0xfb00, "FF"), (0xfb01, "FI"), (0xfb02, "FL"),
  (0xfb03, "FFI"), (0xfb04, "FFL"), (0xfb05, "ST"), (0xfb06, "ST")]

end Text

def CodePoint.asciiUpper : CodePoint → Text
  | .char c =>
    match Text.uppercasePairs.lookup c.toNat with
    | some t => t
    | none => [.char c.toUpper]
  | .surrogate place => [.surrogate place]

def Text.asciiUpper (t : Text) : Text := t.flatMap CodePoint.asciiUpper

end SqlConsole
