/-!
# Ranges of code points

A property of characters is kept as the list of the ranges of code points that have it.
-/

namespace PriorArt.Text

/-- A first and a last code point, both included. -/
abbrev CodeRange := Nat × Nat

def inRanges (ranges : List CodeRange) (c : Char) : Bool :=
  ranges.any fun r => r.1 ≤ c.toNat && c.toNat ≤ r.2

end PriorArt.Text
