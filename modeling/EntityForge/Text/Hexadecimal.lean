/-!
# Hexadecimal digits

A digit beyond nine is a letter from `a` to `f`, in either case.
-/

set_option autoImplicit false

namespace EntityForge.Text

/-- The value of a hexadecimal digit. -/
def hexValue? (c : Char) : Option Nat :=
  if '0' ≤ c ∧ c ≤ '9' then some (c.toNat - 48)
  else if 'a' ≤ c ∧ c ≤ 'f' then some (c.toNat - 87)
  else if 'A' ≤ c ∧ c ≤ 'F' then some (c.toNat - 55)
  else none

end EntityForge.Text
