import LmntalServer.Text.Hex
import LmntalServer.Text.Pieces

/-!
# Addresses of 32 bits

An address is written as four decimal numbers, and may be given by one to four numbers, of which
the last stands for all bytes that are left.  A number may be octal, after a zero, or hexadecimal,
after `0x`.

Main definitions:

* `Ipv4`: the addresses.
* `Ipv4.render`: the text of an address.
* `Ipv4.endsInNumber`: whether a text has to be an address.
* `Ipv4.read?`: the address of a text.
-/

namespace LmntalServer

/-- An address of 32 bits. -/
structure Ipv4 where
  value : UInt32
deriving DecidableEq, Repr, Inhabited

namespace Ipv4

/-- The four bytes of an address. -/
def bytes (a : Ipv4) : List Nat :=
  let n := a.value.toNat
  [n / 0x1000000, n / 0x10000 % 0x100, n / 0x100 % 0x100, n % 0x100]

/-- The text of an address. -/
def render (a : Ipv4) : String :=
  ".".intercalate (a.bytes.map toString)

/-! ## Reading -/

/-- The number that some digits stand for to a base, if all are below it.  No digits stand for
zero. -/
def readDigits? (base : Nat) (digits : Text) : Option Nat :=
  digits.foldlM (fun n c => (hexValue? c).bind fun d =>
    if d < base then some (base * n + d) else none) 0

/-- Reads a number. -/
def readNumber? : Text → Option Nat
  | [] => none
  | '0' :: 'x' :: t => readDigits? 16 t
  | '0' :: 'X' :: t => readDigits? 16 t
  | '0' :: c :: t => readDigits? 8 (c :: t)
  | t => readDigits? 10 t

/-- The pieces of a text between points.  A point at the end does not count. -/
def parts (t : Text) : List Text :=
  match (Text.pieces (· = '.') t).reverse with
  | [] :: p :: ps => (p :: ps).reverse
  | ps => ps.reverse

/-- Whether the last part of a text is a number, or has only digits, so that the text has to be an
address. -/
def endsInNumber (t : Text) : Bool :=
  match (parts t).getLast? with
  | some (c :: last) => (c :: last).all Char.isDigit || (readNumber? (c :: last)).isSome
  | _ => false

/-- The number of some bytes and one more number, which stands for the bytes that are left. -/
def combine? : (left : Nat) → List Nat → Option Nat
  | 0, _ => none
  | _, [] => none
  | left, [n] => if n < Nat.pow 256 left then some n else none
  | left + 1, b :: ns =>
      if b < 256 then (combine? left ns).map (b * Nat.pow 256 left + ·) else none

/-- Reads an address. -/
def read? (t : Text) : Option Ipv4 := do
  let numbers ← (parts t).mapM readNumber?
  let n ← combine? 4 numbers
  return ⟨n.toUInt32⟩

example : (read? "0x7f.1".toList).map render = some "127.0.0.1" := by
  decide +kernel

end Ipv4
end LmntalServer
