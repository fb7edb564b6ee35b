import LmntalServer.Decimal.Digits
import LmntalServer.Text.Units

/-!
# Numerals

A number as it is written, with all its digits.

Main definitions:

* `Numeral`: a sign, digits before and after the point, and an exponent.
* `Numeral.ofNat`, `Numeral.ofInt`: the numeral of an integer.
* `Numeral.int?`: the integer that a numeral stands for.
* `Numeral.render`: the text of a numeral.
-/

namespace LmntalServer

/-- A number as it is written: a sign, the digits before the point, the digits after it, and the
sign and the digits of the exponent. -/
structure Numeral where
  negative : Bool
  whole : Text
  fraction : Option Text
  exponent : Option (Bool × Text)
deriving DecidableEq, Repr, Inhabited

namespace Numeral

/-- The numeral of a natural number. -/
def ofNat (n : Nat) : Numeral :=
  ⟨false, Nat.toDigits 10 n, none, none⟩

/-- The numeral of an integer. -/
def ofInt (n : Int) : Numeral :=
  ⟨n < 0, Nat.toDigits 10 n.natAbs, none, none⟩

/-- The integer that a numeral without point and exponent stands for; a negative zero is no
integer. -/
def int? (n : Numeral) : Option Int :=
  match n.fraction, n.exponent with
  | none, none =>
      let k := natOfDigits n.whole
      if n.negative then if k = 0 then none else some (-k) else some k
  | _, _ => none

/-- The text of a numeral.  An exponent is written with its sign. -/
def render (n : Numeral) : Text :=
  let fraction :=
    match n.fraction with
    | none => []
    | some f => '.' :: f
  let exponent :=
    match n.exponent with
    | none => []
    | some (negative, e) => 'e' :: (if negative then '-' else '+') :: e
  (if n.negative then ['-'] else []) ++ n.whole ++ fraction ++ exponent

end Numeral

end LmntalServer
