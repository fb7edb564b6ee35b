import LmntalServer.Text.Units

/-!
# Faults in JSON text

A reader stops at the first fault, of form or of type, that it meets from left to right.  A fault
keeps the text that was left when it was met, from which its line and column follow; columns count
bytes.

Main definitions:

* `Fault.Cause`: what is wrong.
* `Fault`: a cause with its place.
* `Fault.message`: the report of a fault in a text.
-/

namespace LmntalServer

/-- What may be wrong with a JSON text. -/
inductive Fault.Cause where
  | endInValue
  | endInList
  | endInObject
  | endInString
  | expectedValue
  | expectedColon
  | expectedCommaInList
  | expectedCommaInObject
  | expectedLiteral
  | keyNotString
  | trailingComma
  | trailingCharacters
  | invalidNumber
  | numberOutOfRange
  | invalidEscape
  | loneSurrogate
  | unpairedSurrogate
  | controlCharacter
  | wrongType (found expected : String)
  | wrongLength (found : Nat) (expected : String)
  | missingField (name : String)
  | duplicateField (name : String)
deriving DecidableEq, Repr

namespace Fault.Cause

/-- What is wrong, in words. -/
def message : Fault.Cause → String
  | endInValue => "EOF while parsing a value"
  | endInList => "EOF while parsing a list"
  | endInObject => "EOF while parsing an object"
  | endInString => "EOF while parsing a string"
  | expectedValue => "expected value"
  | expectedColon => "expected `:`"
  | expectedCommaInList => "expected `,` or `]`"
  | expectedCommaInObject => "expected `,` or `\x7d`"
  | expectedLiteral => "expected ident"
  | keyNotString => "key must be a string"
  | trailingComma => "trailing comma"
  | trailingCharacters => "trailing characters"
  | invalidNumber => "invalid number"
  | numberOutOfRange => "number out of range"
  | invalidEscape => "invalid escape"
  | loneSurrogate => "lone leading surrogate in hex escape"
  | unpairedSurrogate => "unexpected end of hex escape"
  | controlCharacter => "control character (\\u0000-\\u001F) found while parsing a string"
  | wrongType found expected => "invalid type: " ++ found ++ ", expected " ++ expected
  | wrongLength found expected =>
      "invalid length " ++ toString found ++ ", expected " ++ expected
  | missingField name => "missing field `" ++ name ++ "`"
  | duplicateField name => "duplicate field `" ++ name ++ "`"

end Fault.Cause

/-- A fault: its cause, the text that was left when it was met, and the number of bytes of that
text that belong to it. -/
structure Fault where
  cause : Fault.Cause
  rest : Text
  ahead : Nat
deriving DecidableEq, Repr

namespace Fault

/-- A fault in what has been read. -/
def behind (cause : Cause) (rest : Text) : Fault :=
  ⟨cause, rest, 0⟩

/-- A fault in the next character. -/
def atNext (cause : Cause) (rest : Text) : Fault :=
  ⟨cause, rest, 1⟩

/-- The line, counted from one, and the column after some bytes of a text that continues a line
at a column. -/
def place (line column : Nat) : Text → Nat → Nat × Nat
  | [], _ => (line, column)
  | c :: t, n =>
      if n < c.utf8Size then (line, column + n)
      else if c = '\n' then place (line + 1) 0 t (n - 1)
      else place line (column + c.utf8Size) t (n - c.utf8Size)

/-- The number of bytes of a text up to and with a fault. -/
def offset (f : Fault) (t : Text) : Nat :=
  t.bytes - f.rest.bytes + f.ahead

/-- The report of a fault in a text. -/
def message (f : Fault) (t : Text) : String :=
  let p := place 1 0 t (f.offset t)
  f.cause.message ++ " at line " ++ toString p.1 ++ " column " ++ toString p.2

end Fault
end LmntalServer
