import LmntalServer.Text.Unprintable
import LmntalServer.Text.Units

/-!
# Quoted texts

Error messages and descriptions show texts between quotation marks.  The quotation mark and the
backslash are escaped by a backslash, the common control characters by a letter, and all other
characters that are not shown as they are by their code point in lower-case hexadecimal.

Main definitions:

* `Text.quoted`: a text between quotation marks.
* `quoted`: the same for a string.
-/

namespace LmntalServer

/-- A character within a quoted text. -/
def quotedChar (c : Char) : Text :=
  match c with
  | '"' => ['\\', '"']
  | '\\' => ['\\', '\\']
  | '\n' => ['\\', 'n']
  | '\t' => ['\\', 't']
  | '\r' => ['\\', 'r']
  | '\x00' => ['\\', '0']
  | c =>
      if isPrintable c then [c]
      else ['\\', 'u', '\x7b'] ++ Nat.toDigits 16 c.toNat ++ ['\x7d']

namespace Text

/-- A text between quotation marks. -/
def quoted (t : Text) : Text :=
  '"' :: t.flatMap quotedChar ++ ['"']

end Text

/-- A string between quotation marks. -/
def quoted (s : String) : String :=
  String.ofList (Text.quoted s.toList)

example : quoted "a\tb" = "\"a\\tb\"" := by
  decide +kernel

end LmntalServer
