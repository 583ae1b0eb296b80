import BodyScrub.Text

/-!
# Sets of code points

The classes of Unicode are long runs, so a set is kept as the sorted list of the points at which membership
changes, beginning outside.
-/

namespace BodyScrub

/-- A set of code points: the first member, the first nonmember after it, the next member, and so on. -/
structure PointSet where
  bounds : List Nat

namespace PointSet

/-- Walks the bounds up to `n`, changing sides at each. -/
def side (n : Nat) : Bool → List Nat → Bool
  | inside, [] => inside
  | inside, b :: bs => if n < b then inside else side n (!inside) bs

def contains (s : PointSet) (c : CodePoint) : Bool := side c.val false s.bounds

end PointSet

end BodyScrub
