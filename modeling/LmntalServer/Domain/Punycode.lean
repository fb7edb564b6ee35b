import LmntalServer.Text.Units

/-!
# Letters of a label in ASCII

A label is written in ASCII as its ASCII characters, a hyphen, and numbers that tell where the other
characters are to be put, in the order of their code points.  Each number is the way from one such
place to the next, and is written with digits whose weights depend on the numbers before.

Main definitions:

* `Punycode.encode`: the characters of a label in ASCII.
* `Punycode.decode?`: the label that they stand for.

Main results:

* `Punycode.readNumber_length_lt`: reading a number uses up some digits.
-/

namespace LmntalServer
namespace Punycode

/-! ## Digits -/

/-- The number of digits. -/
def base : Nat :=
  36

/-- The digit of a value. -/
def digit (n : Nat) : Char :=
  if n < 26 then Char.ofNat ('a'.toNat + n) else Char.ofNat ('0'.toNat + (n - 26))

/-- The value of a digit. -/
def valueOf? (c : Char) : Option Nat :=
  if 'a' ≤ c ∧ c ≤ 'z' then some (c.toNat - 'a'.toNat)
  else if '0' ≤ c ∧ c ≤ '9' then some (c.toNat - '0'.toNat + 26)
  else none

/-! ## Weights -/

/-- The least value of a digit that is not the last of its number, given the place of the digit,
which is a multiple of the base, and the bias. -/
def threshold (place bias : Nat) : Nat :=
  max 1 (min 26 (place - bias))

theorem threshold_pos (place bias : Nat) : 1 ≤ threshold place bias := by
  unfold threshold
  omega

/-- The bias at which a number of some size has middling thresholds. -/
def biasOf (n : Nat) : Nat :=
  if 455 < n then base + biasOf (n / 35) else base * n / (n + 38)
termination_by n

/-- The bias after a number: the first one counts less, and the next one is shared among all
characters so far. -/
def adapt (n count : Nat) (isFirst : Bool) : Nat :=
  let n := if isFirst then n / 700 else n / 2
  biasOf (n + n / count)

/-- The bias before the first number. -/
def initialBias : Nat :=
  72

/-- The first code point beyond ASCII. -/
def initialPoint : Nat :=
  128

/-! ## Writing -/

/-- A number from the digit at a place on. -/
def writeNumber (bias place n : Nat) : Text :=
  let t := threshold place bias
  if n < t then [digit n]
  else digit (t + (n - t) % (base - t)) :: writeNumber bias (place + base) ((n - t) / (base - t))
termination_by n
decreasing_by
  have := threshold_pos place bias
  have := Nat.div_le_self (n - threshold place bias) (base - threshold place bias)
  omega

/-- What has been written, the way to the next place, the bias, and how many characters there
are. -/
structure Writer where
  output : Text
  way : Nat
  bias : Nat
  count : Nat

namespace Writer

/-- Passes a character of the label, which is written if it has the code point. -/
def pass (w : Writer) (point : Nat) (c : Char) : Writer :=
  if c.toNat < point then { w with way := w.way + 1 }
  else if c.toNat = point then
    { output := w.output ++ writeNumber w.bias base w.way
      way := 0
      bias := adapt w.way (w.count + 1) w.output.isEmpty
      count := w.count + 1 }
  else w

/-- Writes the characters of some code points, which ascend from a code point on. -/
def writeAll (label : Text) (w : Writer) (point : Nat) : List Nat → Writer
  | [] => w
  | next :: points =>
      let w := { w with way := w.way + (next - point) * (w.count + 1) }
      let w := label.foldl (fun w c => w.pass next c) w
      writeAll label { w with way := w.way + 1 } (next + 1) points

end Writer

/-- Whether a character is an ASCII character. -/
def isAscii (c : Char) : Bool :=
  c.toNat < initialPoint

/-- The characters of a label in ASCII. -/
def encode (label : Text) : Text :=
  let basic := label.filter isAscii
  let points := ((label.filter (!isAscii ·)).map Char.toNat).mergeSort.eraseReps
  let w := Writer.writeAll label ⟨[], 0, initialBias, basic.length⟩ initialPoint points
  if basic = [] then w.output else basic ++ '-' :: w.output

/-! ## Reading -/

/-- Reads a number from the digit at a place on, given the weight of that digit and what the digits
before it stand for. -/
def readNumber (bias place weight n : Nat) : Text → Option (Nat × Text)
  | [] => none
  | c :: t =>
      match valueOf? c with
      | none => none
      | some d =>
          let least := threshold place bias
          if d < least then some (n + d * weight, t)
          else readNumber bias (place + base) (weight * (base - least)) (n + d * weight) t

/-- Reading a number uses up some digits. -/
theorem readNumber_length_lt {bias place weight n : Nat} {t : Text} {r : Nat × Text}
    (h : readNumber bias place weight n t = some r) : r.2.length < t.length := by
  induction t generalizing place weight n with
  | nil => simp [readNumber] at h
  | cons c t ih =>
      unfold readNumber at h
      split at h
      · cases h
      · simp only at h
        split at h
        · cases h
          simp
        · have := ih h
          simp only [List.length_cons]
          omega

/-- Reads the characters that are put into a label, the next one at a way from a place and a code
point on. -/
def decodeFrom (bias point place : Nat) (label : Text) (t : Text) : Option Text :=
  match t with
  | [] => some label
  | c :: t =>
      match h : readNumber bias base 1 0 (c :: t) with
      | none => none
      | some (way, rest) =>
          let count := label.length + 1
          let point := point + (place + way) / count
          let place := (place + way) % count
          if point.isValidChar then
            decodeFrom (adapt way count (label.all isAscii)) point (place + 1)
              (label.insertIdx place (Char.ofNat point)) rest
          else none
termination_by t.length
decreasing_by exact readNumber_length_lt h

/-- The label that some characters stand for. -/
def decode? (t : Text) : Option Text :=
  let basic := ((t.reverse.dropWhile (· ≠ '-')).drop 1).reverse
  let rest := if basic = [] then t else t.drop (basic.length + 1)
  decodeFrom initialBias initialPoint 0 basic rest

example : encode "b\u00fccher".toList = "bcher-kva".toList := by
  decide +kernel

end Punycode
end LmntalServer
