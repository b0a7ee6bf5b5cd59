/-!
# Sets of characters as inversion lists

A set of code points is written as the increasing list of the places where membership changes:
the code points from the first bound (included) to the second (excluded) are in, those up to the
third are out, and so on.  A code point is therefore a member iff an odd number of bounds lie at
or below it.
-/

namespace ChatLobby.Text

/-- A set of code points, given by the bounds where membership changes, in increasing order. -/
structure CharSet where
  /-- Where membership changes, beginning from "not a member". -/
  bounds : Array Nat

namespace CharSet

/-- Whether `c` is a member: an odd number of bounds lie at or below it. -/
def contains (s : CharSet) (c : Char) : Bool :=
  s.bounds.countP (· ≤ c.toNat) % 2 == 1

end CharSet

end ChatLobby.Text
