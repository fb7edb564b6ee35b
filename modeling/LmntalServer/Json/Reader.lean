import LmntalServer.Json.Skip

/-!
# Reading JSON values

Main definitions:

* `Json.readValue`: a value at the front of a text.
* `Json.parse`: the value of a whole text.
-/

namespace LmntalServer
namespace Json

/-- Reads a named literal of which the first character has been read. -/
def readNamed (word : String) (v : Json) (t : Text) : Except Fault (Json × Text) :=
  (readWord word.toList t).map fun rest => (v, rest)

mutual

/-- Reads a value.  The fuel bounds the number of values and items. -/
def readValueWith (fuel : Nat) (t : Text) : Except Fault (Json × Text) :=
  match fuel with
  | 0 => .error (.behind .endInValue t)
  | fuel + 1 =>
      match dropBlanks t with
      | [] => .error (.atNext .endInValue [])
      | 'n' :: t => readNamed "ull" null t
      | 't' :: t => readNamed "rue" (bool true) t
      | 'f' :: t => readNamed "alse" (bool false) t
      | '"' :: t => (readStringBody t).map fun r => (string (String.ofList r.1), r.2)
      | '[' :: t =>
          match dropBlanks t with
          | [] => .error (.atNext .endInList [])
          | ']' :: t => .ok (array [], t)
          | t => (readItemsWith fuel t).map fun r => (array r.1, r.2)
      | '\x7b' :: t =>
          match dropBlanks t with
          | [] => .error (.atNext .endInObject [])
          | '\x7d' :: t => .ok (object [], t)
          | t => (readMembersWith fuel t).map fun r => (object r.1, r.2)
      | c :: t =>
          if c = '-' ∨ c.isDigit then
            (readNumeral .endInValue (c :: t)).map fun r => (number r.1, r.2)
          else .error (.atNext .expectedValue (c :: t))

/-- Reads the items of an array, at least one, and the bracket after them. -/
def readItemsWith (fuel : Nat) (t : Text) : Except Fault (List Json × Text) :=
  match fuel with
  | 0 => .error (.behind .endInList t)
  | fuel + 1 => do
      let (v, t) ← readValueWith fuel t
      match dropBlanks t with
      | [] => throw (.atNext .endInList [])
      | ']' :: t => return ([v], t)
      | ',' :: t =>
          let (vs, t) ← readItemsWith fuel t
          return (v :: vs, t)
      | t => throw (.atNext .expectedCommaInList t)

/-- Reads the members of an object, at least one, and the brace after them. -/
def readMembersWith (fuel : Nat) (t : Text) : Except Fault (List (String × Json) × Text) :=
  match fuel with
  | 0 => .error (.behind .endInObject t)
  | fuel + 1 =>
      match dropBlanks t with
      | [] => .error (.atNext .endInValue [])
      | '"' :: t => do
          let (name, t) ← readStringBody t
          let t ← expectColon t
          let (v, t) ← readValueWith fuel t
          match dropBlanks t with
          | [] => throw (.atNext .endInObject [])
          | '\x7d' :: t => return ([(String.ofList name, v)], t)
          | ',' :: t =>
              let (ms, t) ← readMembersWith fuel t
              return ((String.ofList name, v) :: ms, t)
          | t => throw (.atNext .expectedCommaInObject t)
      | t => .error (.atNext .keyNotString t)

end

/-- Reads a value.  Every step goes forward, so twice the length of the text is enough fuel. -/
def readValue (t : Text) : Except Fault (Json × Text) :=
  readValueWith (2 * t.length + 1) t

/-- The value of a whole text, with blanks around it. -/
def parse (t : Text) : Except Fault Json := do
  let (v, t) ← readValue t
  match dropBlanks t with
  | [] => return v
  | t => throw (.atNext .trailingCharacters t)

end Json
end LmntalServer
