import LmntalServer.Dictionary
import LmntalServer.Json.Number

/-!
# Canonical values

Two texts may stand for the same JSON value.  The canonical form of a value lists the members of
each object once, in the order of their names, and writes each number in the shortest way.

Main definitions:

* `Json.canonical`: the canonical form of a value.
-/

namespace LmntalServer
namespace Json

/-- The canonical form of a value.  Of several members of one name the last stays. -/
def canonical : Json → Json
  | number n =>
      match n.value? with
      | .ok v => number v.toNumeral
      | .error _ => number n
  | array vs => array (canonicalItems vs)
  | object ms => object (Dictionary.ofList (canonicalMembers ms)).entries
  | v => v
where
  /-- Some items, each in its canonical form. -/
  canonicalItems : List Json → List Json
    | [] => []
    | v :: vs => canonical v :: canonicalItems vs
  /-- Some members in the order in which they stand, each value in its canonical form. -/
  canonicalMembers : List (String × Json) → List (String × Json)
    | [] => []
    | (k, v) :: ms => (k, canonical v) :: canonicalMembers ms

end Json
end LmntalServer
