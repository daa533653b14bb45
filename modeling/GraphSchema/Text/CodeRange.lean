/-!
Sets of characters given by ranges of code points, for the character properties that reach beyond
ASCII. A range holds both its ends.
-/

namespace GraphSchema.Text

/-- A set of code points, as a list of inclusive ranges. -/
abbrev CodeRanges := List (Nat × Nat)

def CodeRanges.holds (ranges : CodeRanges) (c : Char) : Bool :=
  ranges.any fun range => range.1 ≤ c.toNat && c.toNat ≤ range.2

end GraphSchema.Text
