import LmntalServer.Uri.Basic

/-!
# Shapes of parameters

The protocol says for every method which values its parameters may be.  A shape says the same of
one value, and gives the type of what is taken from the value.  Most of a value is only looked at
and not taken.

Main definitions:

* `Shape`, `Fields`, `Parts`: the shapes of values, of the members of objects, and of the groups of
  members that several objects share.
* `Presence`: whether a member may be absent.
* `Shape.Value`, `Fields.Values`, `Parts.Values`: the types of what is taken.
-/

namespace LmntalServer

/-- Whether a member may be absent.  A `nullable` one may also be null, and a `trailing` one may
also be left out at the end of a list; an `optional` one may be absent or left out, but not
null. -/
inductive Presence where
  | required
  | nullable
  | trailing
  | optional
deriving DecidableEq, Repr

mutual

/-- The shapes of values: any value at all, the simple ones, names of which there is a choice,
lists, pairs, objects with any members, and records.  A URI map is an object that has URIs for
names.  `flagOr` is a value of a shape, or a boolean.  A `record` is an object with known members,
or a list of them in order; a `joined` record, which may share members with others, is no list. -/
inductive Shape where
  | any
  | bool
  | string
  | word
  | integer
  | float
  | uri
  | choice (names : List String)
  | list (items : Shape)
  | pair (items : Shape)
  | map (values : Shape)
  | uriMap (values : Shape)
  | flagOr (other : Shape)
  | either (type : String) (one other : Shape)
  | record (type : String) (fields : Fields)
  | joined (type : String) (own : Fields) (parts : Parts)

/-- The shapes of the members of a record, in order. -/
inductive Fields where
  | nil
  | cons (name : String) (presence : Presence) (shape : Shape) (rest : Fields)

/-- The groups of members that a record shares with others, in order.  The last group may consist of
all other members. -/
inductive Parts where
  | nil
  | cons (fields : Fields) (rest : Parts)
  | others (values : Shape)

end

/-! ## What is taken -/

/-- What is taken from a member, given what is taken from its value. -/
@[reducible]
def Presence.Value (presence : Presence) (α : Type) : Type :=
  match presence with
  | .required => α
  | .nullable | .trailing | .optional => Option α

mutual

/-- What is taken from a value of a shape. -/
@[reducible]
def Shape.Value : Shape → Type
  | .string => String
  | .word => UInt32
  | .integer => Int
  | .uri => Uri
  | .list items => List items.Value
  | .record _ fields => fields.Values
  | .joined _ own parts => own.Values × parts.Values
  | .any | .bool | .float | .choice _ | .pair _ | .map _ | .uriMap _ | .flagOr _
  | .either _ _ _ => Unit

/-- What is taken from the members of a record. -/
@[reducible]
def Fields.Values : Fields → Type
  | .nil => Unit
  | .cons _ presence shape rest => presence.Value shape.Value × rest.Values

/-- What is taken from the members that a record shares. -/
@[reducible]
def Parts.Values : Parts → Type
  | .nil => Unit
  | .cons fields rest => fields.Values × rest.Values
  | .others _ => Unit

end

namespace Fields

/-- Members, the first of which is required. -/
abbrev required (name : String) (shape : Shape) (rest : Fields) : Fields :=
  cons name .required shape rest

/-- Members, the first of which may be null or absent. -/
abbrev nullable (name : String) (shape : Shape) (rest : Fields) : Fields :=
  cons name .nullable shape rest

/-- Members, the first of which may be null, absent, or left out at the end. -/
abbrev trailing (name : String) (shape : Shape) (rest : Fields) : Fields :=
  cons name .trailing shape rest

/-- Members, the first of which may be absent or left out at the end. -/
abbrev optional (name : String) (shape : Shape) (rest : Fields) : Fields :=
  cons name .optional shape rest

/-- The names of members. -/
def names : Fields → List String
  | nil => []
  | cons name _ _ rest => name :: rest.names

/-- The number of members. -/
def size (fields : Fields) : Nat :=
  fields.names.length

end Fields
end LmntalServer
