import LmntalServer.Json.Basic

/-!
# Frames

Messages are sent one after another.  Each stands behind a header, which gives its length in bytes
and ends with an empty line.

Main definitions:

* `Frame.contentLength?`: the length that a line of a header gives.
* `Frame.render`: a message with its header.
-/

namespace LmntalServer
namespace Frame

/-- The field of a header that gives the length of a message, in lower case. -/
def lengthField : Text :=
  "content-length:".toList

/-- The length that a line of a header gives, if it is the line of the length. -/
def contentLength? (line : Text) : Option Nat :=
  let field := line.take lengthField.length
  let value := (line.drop lengthField.length).filter fun c => !(c = ' ' || c = '\r' || c = '\n')
  if field.map Char.toLower = lengthField ∧ value ≠ [] ∧ value.all Char.isDigit then
    some (natOfDigits value)
  else none

/-- A message with its header. -/
def render (v : Json) : String :=
  let body := v.render
  "Content-Length: " ++ toString body.bytes ++ "\r\n\r\n" ++ String.ofList body

end Frame
end LmntalServer
