import LmntalServer.Text.Hex
import LmntalServer.Text.Units

/-!
# Percent escapes

A URI is written in ASCII.  A character that may not stand in a part of it is written as the bytes
of its UTF-8 form, each as a percent sign and two upper-case hexadecimal digits.  Which characters
are escaped depends on the part; control characters and everything beyond ASCII always are.

Main definitions:

* `Uri.escape`: a text with the characters of a set escaped.
* `Uri.unescape`: the bytes that an escaped text stands for.
* `Uri.controlSet`, `Uri.fragmentSet`, `Uri.querySet`, `Uri.pathSet`, `Uri.userinfoSet`.
-/

namespace LmntalServer
namespace Uri

/-! ## Writing -/

/-- The escape of a byte. -/
def escapeByte (b : UInt8) : Text :=
  ['%', (Nat.digitChar (b.toNat / 16)).toUpper, (Nat.digitChar (b.toNat % 16)).toUpper]

/-- A text with the characters of a set escaped. -/
def escape (set : Char → Bool) (t : Text) : Text :=
  t.flatMap fun c => if set c then (String.utf8EncodeChar c).flatMap escapeByte else [c]

/-! ## Sets -/

/-- The characters that are escaped everywhere: controls and all beyond ASCII. -/
def controlSet (c : Char) : Bool :=
  c.toNat < 0x20 || 0x7F ≤ c.toNat

/-- The characters that are escaped in a fragment. -/
def fragmentSet (c : Char) : Bool :=
  controlSet c || " \"<>`".toList.contains c

/-- The characters that are escaped in a query; in special schemes also the apostrophe. -/
def querySet (special : Bool) (c : Char) : Bool :=
  controlSet c || " \"#<>".toList.contains c || (special && c = '\x27')

/-- The characters that are escaped in the segments of a path. -/
def pathSet (c : Char) : Bool :=
  fragmentSet c || "#?\x7b\x7d".toList.contains c

/-- The characters that are escaped in a user name and a password. -/
def userinfoSet (c : Char) : Bool :=
  pathSet c || "/:;=@[\\]^|".toList.contains c

/-! ## Reading -/

/-- The bytes that a text stands for.  A percent sign without two hexadecimal digits stands for
itself. -/
def unescape : Text → List UInt8
  | [] => []
  | '%' :: a :: b :: t =>
      match hexValue? a, hexValue? b with
      | some x, some y => UInt8.ofNat (16 * x + y) :: unescape t
      | _, _ => String.utf8EncodeChar '%' ++ unescape (a :: b :: t)
  | c :: t => String.utf8EncodeChar c ++ unescape t

end Uri
end LmntalServer
