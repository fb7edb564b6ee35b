import LmntalServer.Decimal.Shortest
import LmntalServer.Json.Literal

/-!
# The values of numerals

A numeral without point and exponent that fits into 64 bits is an integer, and every other numeral
is a floating-point number.  Its digits are gathered, as long as they fit, into an unsigned word of
64 bits, which is then scaled by a power of ten.

Main definitions:

* `NumberValue`: an integer or a floating-point number.
* `Numeral.value?`: the value of a numeral, unless it is out of range.
-/

namespace LmntalServer

/-- The value of a numeral. -/
inductive NumberValue where
  | integer (n : Int)
  | floating (x : Float)

namespace NumberValue

/-- The numeral of a value. -/
def toNumeral : NumberValue → Numeral
  | integer n => Numeral.ofInt n
  | floating x => Numeral.ofFloat x

/-- The text of a value. -/
def render (v : NumberValue) : String :=
  String.ofList v.toNumeral.render

/-- A value as faults name it. -/
def describe (v : NumberValue) : String :=
  match v with
  | integer _ => "integer `" ++ v.render ++ "`"
  | floating _ => "floating point `" ++ v.render ++ "`"

end NumberValue

/-- Digits gathered into a word of 64 bits, which they have not outgrown as long as it is open,
with the power of ten by which the word is to be scaled. -/
structure Significand where
  word : Nat
  scale : Int
  isOpen : Bool

namespace Significand

/-- One more digit before the point.  A digit that does not fit closes the word, and from there on
each digit scales it. -/
def addWhole (s : Significand) (c : Char) : Significand :=
  let word := 10 * s.word + digitValue c
  if s.isOpen && word < UInt64.size then { s with word }
  else { s with scale := s.scale + 1, isOpen := false }

/-- One more digit after the point.  A digit that does not fit closes the word, and from there on
no digit counts. -/
def addFraction (s : Significand) (c : Char) : Significand :=
  let word := 10 * s.word + digitValue c
  if s.isOpen && word < UInt64.size then { s with word, scale := s.scale - 1 }
  else { s with isOpen := false }

/-- The significand of a numeral. -/
def ofNumeral (n : Numeral) : Significand :=
  let whole := n.whole.foldl addWhole ⟨0, 0, true⟩
  (n.fraction.getD []).foldl addFraction { whole with isOpen := true }

end Significand

/-- A word scaled by a power of ten, in steps of at most `10 ^ 308`, unless the result is too
large.  The fuel bounds the number of steps. -/
def scaleFloat? (x : Float) (scale : Int) : (fuel : Nat) → Option Float
  | 0 => some 0
  | fuel + 1 =>
      if scale.natAbs ≤ 308 then
        let power := Float.ofScientific 1 false scale.natAbs
        if 0 ≤ scale then
          let y := x * power
          if y.isInf then none else some y
        else some (x / power)
      else if x == 0 then some 0
      else if 0 ≤ scale then none
      else scaleFloat? (x / Float.ofScientific 1 false 308) (scale + 308) fuel

namespace Numeral

/-- The number of digits of an exponent up to the one with which it outgrows 31 bits. -/
def overflowIndex? (digits : Text) : Option Nat :=
  (List.range (digits.length + 1)).find? fun i => 0x80000000 ≤ natOfDigits (digits.take i)

/-- The value of a numeral, or the number of its exponent's digits after those that put it out of
range. -/
def value? (n : Numeral) : Except Nat NumberValue :=
  let s := Significand.ofNumeral n
  let sign (x : Float) : NumberValue := .floating (if n.negative then -x else x)
  let scaled (scale : Int) : Except Nat NumberValue :=
    match scaleFloat? s.word.toUInt64.toFloat scale 1000 with
    | some x => .ok (sign x)
    | none => .error 0
  match n.int?, n.exponent with
  | some k, _ =>
      if -0x8000000000000000 ≤ k ∧ k < UInt64.size then .ok (.integer k) else scaled s.scale
  | none, none => scaled s.scale
  | none, some (negative, digits) =>
      match overflowIndex? digits with
      | some i =>
          if s.word ≠ 0 ∧ negative = false then .error (digits.length - i) else .ok (sign 0)
      | none =>
          let e : Int := natOfDigits digits
          scaled (s.scale + if negative then -e else e)

end Numeral

namespace Json

/-- Reads a numeral and its value. -/
def readNumber (t : Text) : Except Fault (NumberValue × Text) := do
  let (n, rest) ← readNumeral .endInValue t
  match n.value? with
  | .ok v => return (v, rest)
  | .error behind =>
      let digits := (n.exponent.map (·.2)).getD []
      throw (.behind .numberOutOfRange (digits.drop (digits.length - behind) ++ rest))

end Json
end LmntalServer
