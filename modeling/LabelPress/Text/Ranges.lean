import LabelPress.Text.Basic

/-!
# Sets of code points

A set of code points is kept as the increasing list of the places where membership changes, so a
code point belongs to it when an odd number of those places lie at or below it.
-/

namespace LabelPress.Text

/-- Membership in the set whose boundaries are `bounds`. -/
def inRanges (bounds : List Nat) (c : CodePoint) : Bool :=
  bounds.countP (· ≤ c.toNat) % 2 == 1

end LabelPress.Text
