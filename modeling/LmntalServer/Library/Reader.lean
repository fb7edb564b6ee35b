import LmntalServer.Json.Skip
import LmntalServer.Library.Basic

/-!
# Reading library data

Library data is a JSON object that maps each name to its entry.  An entry is an object with a
signature and a description, among any other members, or a list of the two.  The data is read from
left to right, and the first fault, of form or of type, refuses all of it.  Of several entries
under one name the last counts, but every one of them must be well formed.

Main definitions:

* `Library.EntryFields`: the fields of an entry that have been read.
* `Library.readEntry`: reads an entry.
* `Library.read`: reads library data.
-/

namespace LmntalServer
namespace Library

/-- How faults name an entry. -/
def entryType : String :=
  "struct RawEntry"

/-- Reads a string. -/
def readText (t : Text) : Except Fault (String × Text) :=
  match Json.dropBlanks t with
  | '"' :: t => (Json.readStringBody t).map fun r => (String.ofList r.1, r.2)
  | t => .error (Json.wrongType "a string" t)

/-! ## Keys of objects -/

/-- Reads the next key of an object, or the brace after its last member.  A member that is not the
first follows a comma. -/
def readKey (isFirst : Bool) (t : Text) : Except Fault (Option String × Text) :=
  match Json.dropBlanks t with
  | [] => .error (.atNext .endInObject [])
  | '\x7d' :: t => .ok (none, t)
  | t =>
      if isFirst then key t
      else
        match t with
        | ',' :: t =>
            match Json.dropBlanks t with
            | [] => .error (.atNext .endInValue [])
            | '\x7d' :: t => .error (.atNext .trailingComma ('\x7d' :: t))
            | t => key t
        | t => .error (.atNext .expectedCommaInObject t)
where
  /-- Reads a key. -/
  key : Text → Except Fault (Option String × Text)
    | '"' :: t => (Json.readStringBody t).map fun r => (some (String.ofList r.1), r.2)
    | t => .error (.atNext .keyNotString t)

/-! ## Entries -/

/-- The fields of an entry that have been read so far. -/
structure EntryFields where
  signature : Option String
  description : Option String

/-- The place at which a repeated field is reported: behind its name, and behind the brace that
may follow it. -/
def afterRepeated (t : Text) : Text :=
  match Json.dropBlanks t with
  | '\x7d' :: t => t
  | t => t

/-- Reads the members of an entry.  The fuel bounds their number. -/
def readFields (fields : EntryFields) (isFirst : Bool) :
    (fuel : Nat) → Text → Except Fault ((String × String) × Text)
  | 0, t => .error (.behind .endInObject t)
  | fuel + 1, t => do
      let (key, t) ← readKey isFirst t
      match key with
      | none =>
          match fields.signature, fields.description with
          | some s, some d => return ((s, d), t)
          | none, _ => throw (.behind (.missingField "signature") t)
          | _, none => throw (.behind (.missingField "description") t)
      | some "signature" =>
          if fields.signature.isSome then
            throw (.behind (.duplicateField "signature") (afterRepeated t))
          let t ← Json.expectColon t
          let (s, t) ← readText t
          readFields { fields with signature := some s } false fuel t
      | some "description" =>
          if fields.description.isSome then
            throw (.behind (.duplicateField "description") (afterRepeated t))
          let t ← Json.expectColon t
          let (d, t) ← readText t
          readFields { fields with description := some d } false fuel t
      | some _ =>
          let t ← Json.expectColon t
          let t ← Json.skipValue t
          readFields fields false fuel t

/-- The fault of a list with too few items. -/
def wrongLength (found : Nat) (t : Text) : Fault :=
  .behind (.wrongLength found (entryType ++ " with 2 elements")) t

/-- Reads the bracket after the second item of an entry that is a list. -/
def readListEnd (t : Text) : Except Fault Text :=
  match Json.dropBlanks t with
  | [] => .error (.atNext .endInList [])
  | ']' :: t => .ok t
  | ',' :: t =>
      match Json.dropBlanks t with
      | ']' :: t => .error (.atNext .trailingComma (']' :: t))
      | t => .error (.atNext .trailingCharacters t)
  | t => .error (.atNext .trailingCharacters t)

/-- Reads an entry that is a list, after its opening bracket. -/
def readList (t : Text) : Except Fault ((String × String) × Text) := do
  match Json.dropBlanks t with
  | [] => throw (.atNext .endInList [])
  | ']' :: t => throw (wrongLength 0 t)
  | t =>
      let (s, t) ← readText t
      match Json.dropBlanks t with
      | [] => throw (.atNext .endInList [])
      | ']' :: t => throw (wrongLength 1 t)
      | ',' :: t =>
          match Json.dropBlanks t with
          | [] => throw (.atNext .endInValue [])
          | ']' :: t => throw (.atNext .trailingComma (']' :: t))
          | t =>
              let (d, t) ← readText t
              let t ← readListEnd t
              return ((s, d), t)
      | t => throw (.atNext .expectedCommaInList t)

/-- Reads an entry: its signature and its description. -/
def readEntry (t : Text) : Except Fault ((String × String) × Text) :=
  match Json.dropBlanks t with
  | '\x7b' :: t => readFields ⟨none, none⟩ true (t.length + 1) t
  | '[' :: t => readList t
  | t => .error (Json.wrongType entryType t)

/-! ## Whole libraries -/

/-- Reads the members of a library.  The fuel bounds their number. -/
def readMembers (isFirst : Bool) :
    (fuel : Nat) → Text → Except Fault (List (String × String × String) × Text)
  | 0, t => .error (.behind .endInObject t)
  | fuel + 1, t => do
      let (key, t) ← readKey isFirst t
      match key with
      | none => return ([], t)
      | some name =>
          let t ← Json.expectColon t
          let (entry, t) ← readEntry t
          let (members, t) ← readMembers false fuel t
          return ((name, entry) :: members, t)

/-- Reads library data: an object, with blanks around it. -/
def readData (t : Text) : Except Fault (List (String × String × String)) :=
  match Json.dropBlanks t with
  | '\x7b' :: t => do
      let (members, t) ← readMembers true (t.length + 1) t
      match Json.dropBlanks t with
      | [] => return members
      | t => throw (.atNext .trailingCharacters t)
  | t => .error (Json.wrongType "a map" t)

/-- Reads the library of some data. -/
def read (t : Text) : Except Fault Library :=
  (readData t).map ofMembers

end Library
end LmntalServer
