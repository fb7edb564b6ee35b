import LmntalServer.Json.Number
import LmntalServer.Text.Quoted

/-!
# Values that are not wanted

A value of a member that nobody asks for is skipped: only its form matters, so its numbers may be
of any size and its strings may hold any code units.  A value of the wrong type is read far enough
to name it.

Main definitions:

* `Json.skipValue`: what is left after any value.
* `Json.wrongType`: the fault of a value of the wrong type.
* `Json.expectColon`: what is left after the colon between a name and a value.
-/

namespace LmntalServer
namespace Json

/-! ## Separators -/

/-- Skips the blanks and the colon after a name. -/
def expectColon (t : Text) : Except Fault Text :=
  match dropBlanks t with
  | [] => .error (.atNext .endInObject [])
  | ':' :: t => .ok t
  | t => .error (.atNext .expectedColon t)

/-! ## Skipping -/

mutual

/-- Skips a value.  The fuel bounds the number of values and items. -/
def skipValueWith (fuel : Nat) (t : Text) : Except Fault Text :=
  match fuel with
  | 0 => .error (.behind .endInValue t)
  | fuel + 1 =>
      match dropBlanks t with
      | [] => .error (.atNext .endInValue [])
      | 'n' :: t => readWord "ull".toList t
      | 't' :: t => readWord "rue".toList t
      | 'f' :: t => readWord "alse".toList t
      | '"' :: t => skipStringBody t
      | '[' :: t =>
          match dropBlanks t with
          | [] => .error (.atNext .endInList [])
          | ']' :: t => .ok t
          | t => skipItemsWith fuel t
      | '\x7b' :: t =>
          match dropBlanks t with
          | '\x7d' :: t => .ok t
          | t => skipMembersWith fuel t
      | c :: t =>
          if c = '-' ∨ c.isDigit then (readNumeral .invalidNumber (c :: t)).map (·.2)
          else .error (.atNext .expectedValue (c :: t))

/-- Skips the items of an array, at least one, and the bracket after them. -/
def skipItemsWith (fuel : Nat) (t : Text) : Except Fault Text :=
  match fuel with
  | 0 => .error (.behind .endInList t)
  | fuel + 1 => do
      let t ← skipValueWith fuel t
      match dropBlanks t with
      | [] => throw (.atNext .endInList [])
      | ',' :: t => skipItemsWith fuel t
      | ']' :: t => return t
      | t => throw (.atNext .expectedCommaInList t)

/-- Skips the members of an object, at least one, and the brace after them. -/
def skipMembersWith (fuel : Nat) (t : Text) : Except Fault Text :=
  match fuel with
  | 0 => .error (.behind .endInObject t)
  | fuel + 1 =>
      match dropBlanks t with
      | [] => .error (.atNext .endInObject [])
      | '"' :: t => do
          let t ← skipStringBody t
          let t ← expectColon t
          let t ← skipValueWith fuel t
          match dropBlanks t with
          | [] => throw (.atNext .endInObject [])
          | ',' :: t => skipMembersWith fuel t
          | '\x7d' :: t => return t
          | t => throw (.atNext .expectedCommaInObject t)
      | t => .error (.atNext .keyNotString t)

end

/-- Skips a value.  Every step goes forward, so twice the length of the text is enough fuel. -/
def skipValue (t : Text) : Except Fault Text :=
  skipValueWith (2 * t.length + 1) t

/-! ## Values of the wrong type -/

/-- The fault of a value that is not of the expected type. -/
def wrongType (expected : String) (t : Text) : Fault :=
  let word (word : String) (found : String) (t : Text) : Fault :=
    match readWord word.toList t with
    | .error f => f
    | .ok t => .behind (.wrongType found expected) t
  match t with
  | [] => .atNext .endInValue []
  | 'n' :: t => word "ull" "null" t
  | 't' :: t => word "rue" "boolean `true`" t
  | 'f' :: t => word "alse" "boolean `false`" t
  | '"' :: t =>
      match readStringBody t with
      | .error f => f
      | .ok (s, t) => .behind (.wrongType ("string " ++ quoted (String.ofList s)) expected) t
  | '[' :: _ => .behind (.wrongType "sequence" expected) t
  | '\x7b' :: _ => .behind (.wrongType "map" expected) t
  | c :: _ =>
      if c = '-' ∨ c.isDigit then
        match readNumber t with
        | .error f => f
        | .ok (v, t) => .behind (.wrongType v.describe expected) t
      else .atNext .expectedValue t

end Json
end LmntalServer
