import LmntalServer.Text.Units

/-!
# Visible characters

A terminal takes some characters as orders: an escape character begins a sequence that is not
shown, and control characters are not shown either, except for those that lay out the text.  The
visible characters of a text are the others, which may also be printed where there is no terminal.

Main definitions:

* `Terminal`: what a terminal is reading.
* `Terminal.read`: what it is reading after a character, and whether it shows the character.
* `Text.visible`: the visible characters of a text.
-/

namespace LmntalServer

/-- What a terminal is reading.  After an `escape` may come the `escapeTail`, a control `sequence`,
an operating system `command`, the `header` of a device control string, or a `string` of another
kind. -/
inductive Terminal where
  | ground
  | escape
  | escapeTail
  | sequence
  | command
  | header
  | string
deriving DecidableEq, Repr

namespace Terminal

/-- Whether a control character lays out the text. -/
def isLayout (c : Char) : Bool :=
  c = '\t' || c = '\n' || c = '\x0c' || c = '\r'

/-- Whether layout characters count: in all strings they belong to the string. -/
def allowsLayout : Terminal → Bool
  | ground | escape | escapeTail | sequence => true
  | command | header | string => false

/-- What a terminal is reading after a character that is no control character, if it shows none. -/
def advance (s : Terminal) (c : Char) : Terminal :=
  match s with
  | ground => ground
  | escape =>
      if c.toNat < 0x30 then escapeTail
      else if c = '[' then sequence
      else if c = ']' then command
      else if c = 'P' then header
      else if c = 'X' || c = '^' || c = '_' then string
      else if c.toNat < 0x80 then ground
      else escape
  | escapeTail => if 0x30 ≤ c.toNat && c.toNat < 0x80 then ground else escapeTail
  | sequence => if 0x40 ≤ c.toNat && c.toNat < 0x80 then ground else sequence
  | command => command
  | header => if 0x40 ≤ c.toNat && c.toNat < 0x80 then string else header
  | string => if (String.utf8EncodeChar c).contains 0x9C then ground else string

/-- What a terminal is reading after a character, and whether it shows the character. -/
def read (s : Terminal) (c : Char) : Terminal × Bool :=
  if c = '\x1b' then (escape, false)
  else if c = '\x18' || c = '\x1a' then (ground, false)
  else if isLayout c && s.allowsLayout then (ground, true)
  else if c = '\x07' && s = command then (ground, false)
  else if c.toNat < 0x20 || c.toNat = 0x7F then (s, false)
  else (s.advance c, s = ground)

end Terminal

namespace Text

/-- The characters of a text that a terminal shows. -/
def visibleFrom (s : Terminal) : Text → Text
  | [] => []
  | c :: t =>
      match s.read c with
      | (s', true) => c :: visibleFrom s' t
      | (s', false) => visibleFrom s' t

/-- The visible characters of a text. -/
def visible (t : Text) : Text :=
  visibleFrom .ground t

example : visible "a\x1b[31mb\x1b]0;c\x07d\x0be\nf".toList = "abde\nf".toList := by
  decide +kernel

end Text
end LmntalServer
