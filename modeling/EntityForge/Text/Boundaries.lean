/-!
# Sets of characters by their boundaries

A set of numbers that consists of few intervals is listed by the ascending numbers at which
membership changes. A number lies inside the set when an odd number of changes comes at or before
it (`within`).
-/

set_option autoImplicit false

namespace EntityForge.Text

/-- Whether a number lies inside the set with the given ascending boundaries. -/
def within (boundaries : List Nat) (n : Nat) : Bool :=
  (boundaries.takeWhile (fun boundary => decide (boundary ≤ n))).length % 2 == 1

end EntityForge.Text
