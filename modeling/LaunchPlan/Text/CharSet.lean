/-! # Sets of characters given by ranges

The properties that a standard assigns to characters are tables of ranges of
code points.  A `CharSet` holds such a table; `contains` is membership.
-/
namespace LaunchPlan
namespace Text

/-- A set of characters as a list of ranges of code points, ends included. -/
structure CharSet where
  /-- The first and the last code point of each range. -/
  ranges : List (Nat × Nat)

/-- Whether a character lies in one of the ranges. -/
def CharSet.contains (s : CharSet) (c : Char) : Bool :=
  s.ranges.any fun r => r.1 ≤ c.toNat && c.toNat ≤ r.2

end Text
end LaunchPlan
