import LmntalServer.Decimal.Numeral

/-!
# JSON values

Main definitions:

* `Json`: the values, with the members of objects in order and repetitions kept.
* `Json.member?`: the member of a name.
* `Json.render`: a value as text on one line.
-/

namespace LmntalServer

/-- A JSON value. -/
inductive Json where
  | null
  | bool (b : Bool)
  | number (n : Numeral)
  | string (s : String)
  | array (items : List Json)
  | object (members : List (String × Json))
deriving Inhabited

namespace Json

/-- The value of a natural number. -/
def ofNat (n : Nat) : Json :=
  number (Numeral.ofNat n)

/-- The value of an integer. -/
def ofInt (n : Int) : Json :=
  number (Numeral.ofInt n)

/-- The members of an object; no members for any other value. -/
def members : Json → List (String × Json)
  | object ms => ms
  | _ => []

/-- The member of a name; of several the last counts. -/
def member? (v : Json) (name : String) : Option Json :=
  (v.members.reverse.find? (·.1 = name)).map (·.2)

/-! ## Text -/

/-- A character inside a string. -/
def renderChar (c : Char) : Text :=
  match c with
  | '"' => ['\\', '"']
  | '\\' => ['\\', '\\']
  | '\x08' => ['\\', 'b']
  | '\x0c' => ['\\', 'f']
  | '\n' => ['\\', 'n']
  | '\r' => ['\\', 'r']
  | '\t' => ['\\', 't']
  | c =>
      if c.toNat < 0x20 then
        ['\\', 'u', '0', '0', Nat.digitChar (c.toNat / 16), Nat.digitChar (c.toNat % 16)]
      else [c]

/-- The text of a string. -/
def renderString (s : String) : Text :=
  '"' :: s.toList.flatMap renderChar ++ ['"']

/-- The text of a value. -/
def render : Json → Text
  | null => "null".toList
  | bool b => (if b then "true" else "false").toList
  | number n => n.render
  | string s => renderString s
  | array [] => "[]".toList
  | array (v :: vs) => '[' :: render v ++ renderItems vs
  | object [] => ['\x7b', '\x7d']
  | object ((k, v) :: ms) => '\x7b' :: renderString k ++ ':' :: render v ++ renderMembers ms
where
  /-- The text of the further items of an array, with the bracket that closes it. -/
  renderItems : List Json → Text
    | [] => [']']
    | v :: vs => ',' :: render v ++ renderItems vs
  /-- The text of the further members of an object, with the brace that closes it. -/
  renderMembers : List (String × Json) → Text
    | [] => ['\x7d']
    | (k, v) :: ms => ',' :: renderString k ++ ':' :: render v ++ renderMembers ms

end Json
end LmntalServer
