/-!
# Decimal digits

Main definitions:

* `digitValue`: the value of a digit.
* `natOfDigits`: the number that some digits stand for.
-/

namespace LmntalServer

/-- The value of a decimal digit. -/
def digitValue (c : Char) : Nat :=
  c.toNat - '0'.toNat

/-- The number that some decimal digits stand for. -/
def natOfDigits (digits : List Char) : Nat :=
  digits.foldl (fun n c => 10 * n + digitValue c) 0

end LmntalServer
