/-!
# Sets of characters

A property of characters is kept as the list of the ranges of code points that have it.
-/

namespace Stencil

/-- The first and the last code point of each range of a set, in increasing order. -/
abbrev CodeRanges := List (Nat × Nat)

def CodeRanges.has (ranges : CodeRanges) (c : Char) : Bool :=
  ranges.any fun (first, last) => first ≤ c.toNat && c.toNat ≤ last

end Stencil
