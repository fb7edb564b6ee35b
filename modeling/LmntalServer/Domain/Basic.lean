import LmntalServer.Domain.Label

/-!
# Domain names

Main definitions:

* `Domain.toAscii?`: a domain name in ASCII, unless it is none.
-/

namespace LmntalServer
namespace Domain

/-- The labels of a domain name, unless one of them is none.  Once a letter of the name is written
from right to left, the directions of each label have to go together. -/
def labels? (t : Text) : Option (List Label) :=
  match (normalize? t).bind fun t => (Text.pieces (· = '.') t).mapM Label.read? with
  | none => none
  | some labels =>
      if labels.any Label.isRightToLeft && !labels.all Label.isDirected then none else some labels

/-- A domain name in ASCII, unless it is none. -/
def toAscii? (t : Text) : Option Text :=
  (labels? t).map fun labels => Text.join '.' (labels.map Label.ascii)

end Domain
end LmntalServer
