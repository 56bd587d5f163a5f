/-! # Sets of code points

A property of characters is held as the list of the ranges of code points that have it, both ends
included, in ascending order. -/

namespace Packaging.Text

/-- Ranges of code points, both ends included. -/
abbrev CodePoints := List (Nat × Nat)

/-- Whether a character lies in one of the ranges. -/
def CodePoints.contains (ranges : CodePoints) (c : Char) : Bool :=
  ranges.any fun (first, last) => first ≤ c.toNat && c.toNat ≤ last

/-- How many code points the ranges hold. -/
def CodePoints.size (ranges : CodePoints) : Nat :=
  ranges.foldl (fun n (first, last) => n + (last + 1 - first)) 0

end Packaging.Text
