import SqlConsole.Text.Lowercase

/-!
# Letters up to case

Two code points are the same letter up to case when they have one representative
(`CodePoint.fold`). None stands for several letters: the sharp s is not two of them.
-/

namespace SqlConsole

namespace Text

/-- The lower-case letters that share a letter with another one, each with the one that stands for
it. -/
def foldPairs : List (Nat × Nat) := [
  (0x131, 0x69), (0x17f, 0x73), (0x3b9, 0x345), (0x3bc, 0xb5), (0x3c3, 0x3c2), (0x3d0, 0x3b2),
  (0x3d1, 0x3b8), (0x3d5, 0x3c6), (0x3d6, 0x3c0), (0x3f0, 0x3ba), (0x3f1, 0x3c1), (0x3f5, 0x3b5),
  (0x1c80, 0x432), (0x1c81, 0x434), (0x1c82, 0x43e), (0x1c83, 0x441), (0x1c84, 0x442),
  (0x1c85, 0x442), (0x1c86, 0x44a), (0x1c87, 0x463), (0x1e9b, 0x1e61), (0x1fbe, 0x345),
  (0x1fd3, 0x390), (0x1fe3, 0x3b0), (0xa64b, 0x1c88), (0xfb06, 0xfb05)]

end Text

namespace CodePoint

def fold (c : CodePoint) : CodePoint :=
  match Text.foldPairs.lookup c.lower.code with
  | some representative => .char (Char.ofNat representative)
  | none => c.lower

def sameLetter (a b : CodePoint) : Bool := a.fold == b.fold

end CodePoint

end SqlConsole
