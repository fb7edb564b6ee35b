import LmntalServer.Decimal.Digits

/-!
# Hexadecimal digits

Main definitions:

* `hexValue?`: the value of a digit, in upper or lower case.
-/

namespace LmntalServer

/-- The value of a hexadecimal digit. -/
def hexValue? (c : Char) : Option Nat :=
  if '0' ≤ c ∧ c ≤ '9' then some (digitValue c)
  else if 'a' ≤ c ∧ c ≤ 'f' then some (c.toNat - 'a'.toNat + 10)
  else if 'A' ≤ c ∧ c ≤ 'F' then some (c.toNat - 'A'.toNat + 10)
  else none

end LmntalServer
