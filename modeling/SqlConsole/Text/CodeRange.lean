/-!
# Ranges of code points

A class of characters is given by the ranges of its code points.
-/

namespace SqlConsole.Text

/-- The code points from the first number to the second, both included. -/
abbrev CodeRange := Nat × Nat

def inRanges (ranges : List CodeRange) (code : Nat) : Bool :=
  ranges.any fun (first, last) => first ≤ code && code ≤ last

end SqlConsole.Text
