import LmntalServer.Dictionary
import LmntalServer.Rpc.Shape.Basic
import LmntalServer.Rpc.Shape.Fault
import LmntalServer.Uri.Reader

/-!
# Reading values of a shape

The members of an object are looked at in the order of their names, and the first fault counts; a
missing member is a fault only after that.  Members that are not asked for do not matter.  A joined
record looks at its own members first and then at one group of shared members after the other.

Main definitions:

* `Decoded`: what is taken from a value, or why it is not of the shape.
* `Shape.decode`: reads a value of a shape.
-/

namespace LmntalServer

/-- The results of decoding. -/
abbrev Decoded (α : Type) :=
  Except DecodeError α

/-! ## Simple values -/

namespace Json

/-- The fault of a value that is not of a type. -/
def isNot {α : Type} (v : Json) (expected : String) : Decoded α :=
  .error (.wrongType v.describe expected)

/-- An integer of a type, from `low` to `high`. -/
def decodeInt (type : String) (low high : Int) (v : Json) : Decoded Int :=
  match v with
  | .number n =>
      match n.value? with
      | .ok (.integer k) =>
          if low ≤ k ∧ k ≤ high then .ok k else .error (.wrongValue v.describe type)
      | _ => v.isNot type
  | v => v.isNot type

/-- A URI. -/
def decodeUri (v : Json) : Decoded Uri :=
  match v with
  | .string s =>
      match Uri.parse s with
      | .ok u => .ok u
      | .error e => .error (.badUri s e)
  | v => v.isNot "a string representing an URL"

/-- One of some names, which may also be the name of the only member of an object, if that is
null. -/
def decodeChoice (names : List String) (v : Json) : Decoded Unit :=
  match v with
  | .string s => if names.contains s then .ok () else .error (.unknownName s names)
  | .object [(name, value)] =>
      if names.contains name then
        match value with
        | .null => .ok ()
        | value => value.isNot "unit"
      else .error (.unknownName name names)
  | .object _ => .error (.wrongValue v.describe "map with a single key")
  | v => v.isNot "string or map"

end Json

/-! ## Members -/

/-- What may be wrong with a member of an object. -/
inductive MemberFault where
  | wrong (name : String) (cause : DecodeError)
  | missing (name : String)

namespace MemberFault

/-- The first of two faults of members.  Wrong members come in the order of their names, before the
missing ones. -/
def first (f g : MemberFault) : MemberFault :=
  match f, g with
  | wrong a _, wrong b _ => if b < a then g else f
  | missing _, wrong _ _ => g
  | _, missing _ => f

/-- The fault as that of the whole object. -/
def toError : MemberFault → DecodeError
  | wrong _ cause => cause
  | missing name => .missingField name

end MemberFault

/-- Two results together, or the first of their faults. -/
def joinMembers {α β : Type} (a : Except MemberFault α) (b : Except MemberFault β) :
    Except MemberFault (α × β) :=
  match a, b with
  | .ok x, .ok y => .ok (x, y)
  | .error f, .error g => .error (f.first g)
  | .error f, .ok _ => .error f
  | .ok _, .error g => .error g

namespace Presence

/-- What is taken from a member that is absent, unless it is required. -/
def ofAbsent? (α : Type) : (presence : Presence) → Option (presence.Value α)
  | required => none
  | nullable | trailing | optional => some none

/-- What is taken from a member that is left out at the end of a list, if it may be. -/
def ofEnd? (α : Type) : (presence : Presence) → Option (presence.Value α)
  | required | nullable => none
  | trailing | optional => some none

/-- What is taken from a member that is there. -/
def ofValue {α : Type} (decode : Json → Decoded α) (v : Json) :
    (presence : Presence) → Decoded (presence.Value α)
  | required => decode v
  | nullable | trailing =>
      match v with
      | .null => .ok none
      | v => (decode v).map some
  | optional => (decode v).map some

end Presence

/-! ## Values -/

mutual

/-- Reads a value of a shape.  A value is buffered if it has to be kept until its shape is known,
which only shows in the fault of a list that is too long. -/
def Shape.decode : (shape : Shape) → (buffered : Bool) → Json → Decoded shape.Value
  | .any, _, _ => .ok ()
  | .bool, _, .bool _ => .ok ()
  | .bool, _, v => v.isNot "a boolean"
  | .string, _, .string s => .ok s
  | .string, _, v => v.isNot "a string"
  | .word, _, v => (v.decodeInt "u32" 0 0xFFFFFFFF).map fun n => n.toNat.toUInt32
  | .integer, _, v => v.decodeInt "i32" (-0x80000000) 0x7FFFFFFF
  | .float, _, .number _ => .ok ()
  | .float, _, v => v.isNot "f32"
  | .uri, _, v => v.decodeUri
  | .choice names, _, v => v.decodeChoice names
  | .list items, buffered, .array vs => vs.mapM (items.decode buffered)
  | .list _, _, v => v.isNot "a sequence"
  | .pair items, buffered, .array [v, w] => do
      let _ ← items.decode buffered v
      let _ ← items.decode buffered w
      return ()
  | .pair _, _, v => v.isNot "an array of length 2"
  | .map values, buffered, .object ms =>
      (Dictionary.ofList ms).entries.forM fun m => discard (values.decode buffered m.2)
  | .map _, _, v => v.isNot "a map"
  | .uriMap values, buffered, .object ms =>
      (Dictionary.ofList ms).entries.forM fun m => do
        let _ ← (Json.string m.1).decodeUri
        let _ ← values.decode buffered m.2
        return ()
  | .uriMap _, _, v => v.isNot "map"
  | .flagOr _, _, .bool _ => .ok ()
  | .flagOr other, buffered, v => (other.decode buffered v).map fun _ => ()
  | .either type one other, _, v =>
      match one.decode true v, other.decode true v with
      | .error _, .error _ => .error (.noVariant type)
      | _, _ => .ok ()
  | .record type fields, buffered, .array vs => do
      let (values, rest) ← fields.decodeItems type fields.size 0 buffered vs
      if rest.isEmpty then return values
      else if buffered then
        throw (.wrongLength vs.length (countElements fields.size ++ " in sequence"))
      else throw (.wrongLength vs.length "fewer elements in array")
  | .record _ fields, buffered, .object ms =>
      (fields.decodeMembers buffered (Dictionary.ofList ms)).mapError MemberFault.toError
  | .record type _, _, v => v.isNot ("struct " ++ type)
  | .joined _ own parts, buffered, .object ms => do
      let ms := Dictionary.ofList ms
      let values ← (own.decodeMembers buffered ms).mapError MemberFault.toError
      let shared ← parts.decode (ms.filter fun name => !own.names.contains name)
      return (values, shared)
  | .joined type _ _, _, v => v.isNot ("struct " ++ type)

/-- Reads the members of an object. -/
def Fields.decodeMembers : (fields : Fields) → (buffered : Bool) → Dictionary Json →
    Except MemberFault fields.Values
  | .nil, _, _ => .ok ()
  | .cons name presence shape rest, buffered, ms =>
      let value :=
        match ms.get? name with
        | some v =>
            (presence.ofValue (shape.decode buffered) v).mapError (MemberFault.wrong name)
        | none =>
            match presence.ofAbsent? shape.Value with
            | some value => .ok value
            | none => .error (.missing name)
      joinMembers value (rest.decodeMembers buffered ms)

/-- Reads the members of a record of a type and a size from a list, from an index on, and gives what
is left of the list. -/
def Fields.decodeItems : (fields : Fields) → (type : String) → (size index : Nat) →
    (buffered : Bool) → List Json → Decoded (fields.Values × List Json)
  | .nil, _, _, _, _, vs => .ok ((), vs)
  | .cons _ presence shape rest, type, size, index, buffered, vs => do
      let (value, vs) ←
        match vs with
        | v :: vs => (presence.ofValue (shape.decode buffered) v).map fun value => (value, vs)
        | [] =>
            match presence.ofEnd? shape.Value with
            | some value => .ok (value, [])
            | none =>
                .error (.wrongLength index ("struct " ++ type ++ " with " ++ countElements size))
      let (values, vs) ← rest.decodeItems type size (index + 1) buffered vs
      return ((value, values), vs)

/-- Reads the groups of members that a record shares. -/
def Parts.decode : (parts : Parts) → Dictionary Json → Decoded parts.Values
  | .nil, _ => .ok ()
  | .cons fields rest, ms => do
      let values ← (fields.decodeMembers true ms).mapError MemberFault.toError
      let others ← rest.decode ms
      return (values, others)
  | .others values, ms => ms.entries.forM fun m => discard (values.decode true m.2)

end

end LmntalServer
