import LmntalServer.Decimal.Numeral

/-!
# Shortest decimals

A floating-point number of 64 bits stands for all real numbers that round to it.  It is written
with the fewest digits that lie among them, and of several such decimals with the nearest.

Main definitions:

* `Binary`: a positive number `m * 2 ^ q`, with the reals that round to it.
* `Decimal`: a number `d * 10 ^ e`.
* `Binary.shortest`: the shortest decimal of a binary number.
* `Decimal.toNumeral`, `Numeral.ofFloat`: how a decimal and a floating-point number are written.
-/

namespace LmntalServer

/-- A positive binary number `mantissa * 2 ^ exponent`.  If it is `narrow`, its lower neighbour is
only half as far away as its upper one. -/
structure Binary where
  mantissa : Nat
  exponent : Int
  narrow : Bool
deriving DecidableEq, Repr

/-- A decimal number `digits * 10 ^ exponent`. -/
structure Decimal where
  digits : Nat
  exponent : Int
deriving DecidableEq, Repr, Inhabited

namespace Binary

/-- The weight of the leading bit of a mantissa, which is not stored unless the number is tiny. -/
def leadingBit : Nat :=
  0x10000000000000

/-- The absolute value that some bits stand for, for bits that stand for a finite number. -/
def ofBits (bits : UInt64) : Binary :=
  let e := (bits >>> 52).toNat % 2048
  let f := bits.toNat % leadingBit
  if e = 0 then ⟨f, -1074, false⟩ else ⟨leadingBit + f, (e : Int) - 1075, f = 0 && 1 < e⟩

/-- Two factors for the comparison with multiples of `10 ^ e`: `a` quarters of the last place are
at most `d * 10 ^ e` if `a` times the first is at most `d` times the second. -/
def factors (b : Binary) (e : Int) : Nat × Nat :=
  (Nat.pow 2 (b.exponent - 2).toNat * Nat.pow 10 (-e).toNat,
    Nat.pow 10 e.toNat * Nat.pow 2 (2 - b.exponent).toNat)

/-- Whether the decimal `d * 10 ^ e` rounds to a binary number.  The ends of the interval round to
it if its mantissa is even. -/
def covers (b : Binary) (d : Nat) (e : Int) : Bool :=
  let (s, u) := b.factors e
  let low := (4 * b.mantissa - if b.narrow then 1 else 2) * s
  let high := (4 * b.mantissa + 2) * s
  if b.mantissa % 2 = 0 then low ≤ d * u && d * u ≤ high else low < d * u && d * u < high

/-- The largest multiple of `10 ^ e` that is not above a binary number. -/
def floor (b : Binary) (e : Int) : Nat :=
  let (s, u) := b.factors e
  4 * b.mantissa * s / u

/-- The nearer of two neighbouring multiples of `10 ^ e`, the even one if both are as near. -/
def nearer (b : Binary) (d : Nat) (e : Int) : Nat :=
  let (s, u) := b.factors e
  let below := 4 * b.mantissa * s - d * u
  let above := (d + 1) * u - 4 * b.mantissa * s
  if below < above then d
  else if above < below then d + 1
  else if d % 2 = 0 then d else d + 1

/-- The decimal on the grid of multiples of `10 ^ e`, if one rounds to the binary number. -/
def onGrid? (b : Binary) (e : Int) : Option Decimal :=
  let d := b.floor e
  match b.covers d e, b.covers (d + 1) e with
  | true, true => some ⟨b.nearer d e, e⟩
  | true, false => some ⟨d, e⟩
  | false, true => some ⟨d + 1, e⟩
  | false, false => none

/-- The exponent of the leading decimal digit. -/
def magnitude (b : Binary) : Int :=
  ((List.range 640).map fun (i : Nat) => (310 : Int) - i).find? (fun p => 0 < b.floor p) |>.getD 0

/-- The shortest decimal that rounds to a binary number.  Seventeen digits are always enough. -/
def shortest (b : Binary) : Decimal :=
  let p := b.magnitude
  let longest := ⟨b.floor (p - 17), p - 17⟩
  (List.range 17).findSome? (fun (n : Nat) => b.onGrid? (p - n)) |>.getD longest

end Binary

namespace Decimal

/-- The digits of a number without the zeros at the end, and their number. -/
def trimZeros (digits : Text) : Text × Nat :=
  let trimmed := (digits.reverse.dropWhile (· = '0')).reverse
  (trimmed, digits.length - trimmed.length)

/-- A positive decimal as it is written, always with a point unless there is an exponent.  Numbers
below `10 ^ 16` and from `10 ^ (-5)` on are written out. -/
def toNumeral (d : Decimal) : Numeral :=
  let (digits, zeros) := trimZeros (Nat.toDigits 10 d.digits)
  let exponent := d.exponent + zeros
  let point := digits.length + exponent
  if 0 ≤ exponent ∧ point ≤ 16 then
    ⟨false, digits ++ List.replicate exponent.toNat '0', some ['0'], none⟩
  else if 0 < point ∧ point ≤ 16 then
    ⟨false, digits.take point.toNat, some (digits.drop point.toNat), none⟩
  else if -5 < point ∧ point ≤ 0 then
    ⟨false, ['0'], some (List.replicate (-point).toNat '0' ++ digits), none⟩
  else
    let fraction := if digits.length = 1 then none else some (digits.drop 1)
    ⟨false, digits.take 1, fraction, some (point ≤ 0, Nat.toDigits 10 (point - 1).natAbs)⟩

end Decimal

/-- The shortest numeral of a finite floating-point number. -/
def Numeral.ofFloat (x : Float) : Numeral :=
  let bits := x.toBits
  let b := Binary.ofBits bits
  let n := if b.mantissa = 0 then ⟨false, ['0'], some ['0'], none⟩ else b.shortest.toNumeral
  { n with negative := bits >>> 63 ≠ 0 }

end LmntalServer
