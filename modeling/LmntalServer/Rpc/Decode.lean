import LmntalServer.Rpc.Shape.Client
import LmntalServer.Rpc.Shape.Decode
import LmntalServer.Rpc.Shape.Params
import LmntalServer.Session.Basic

/-!
# What clients send

The events of a session that the parameters of requests and notifications stand for.

Main definitions:

* `Position.ofValues`, `Range.ofValues`, `Change.ofValues`: the parts.
* `Event.ofOpened`, `Event.ofChanged`, `Event.ofClosed`, `Event.ofHover`, `Event.ofCompletion`: the
  events.
* `Params`: parameters with the event that they stand for.
-/

namespace LmntalServer

/-! ## Parts -/

/-- A position of its members. -/
def Position.ofValues : Shape.position.Value → Position
  | (line, character, ()) => ⟨line, character⟩

/-- A range of its members. -/
def Range.ofValues : Shape.range.Value → Range
  | (start, stop, ()) => ⟨Position.ofValues start, Position.ofValues stop⟩

/-- A change of its members.  The length of the range does not count. -/
def Change.ofValues : Shape.change.Value → Change
  | (range, _, text, ()) => ⟨range.map Range.ofValues, text.toList⟩

/-- The document and the position of a place. -/
def placeOfValues : Fields.place.Values → Uri × Position
  | ((uri, ()), position, ()) => (uri, Position.ofValues position)

/-! ## Events -/

namespace Event

/-- The event of an opened document. -/
def ofOpened : Shape.openParams.Value → Event
  | ((uri, language, version, text, ()), ()) => openDocument uri language version text.toList

/-- The event of a changed document. -/
def ofChanged : Shape.changeParams.Value → Event
  | ((uri, version, ()), changes, ()) => changeDocument uri version (changes.map Change.ofValues)

/-- The event of a closed document. -/
def ofClosed : Shape.closeParams.Value → Event
  | ((uri, ()), ()) => closeDocument uri

/-- The event of a hover. -/
def ofHover : Shape.hoverParams.Value → Event
  | (_, place, _) => hover (placeOfValues place).1 (placeOfValues place).2

/-- The event of a completion. -/
def ofCompletion : Shape.completionParams.Value → Event
  | (_, place, _) => complete (placeOfValues place).1 (placeOfValues place).2

end Event

/-- Parameters of a shape, with the event that they stand for. -/
structure Params where
  shape : Shape
  event : shape.Value → Event

namespace Params

/-- Reads parameters. -/
def decode (p : Params) (v : Json) : Decoded Event :=
  (p.shape.decode false v).map p.event

/-- The parameters of an initialization. -/
def connect : Params :=
  ⟨Shape.connectParams, fun _ => .connect⟩

/-- The parameters after an initialization. -/
def ready : Params :=
  ⟨Shape.readyParams, fun _ => .ready⟩

/-- The parameters of an opened document. -/
def opened : Params :=
  ⟨Shape.openParams, Event.ofOpened⟩

/-- The parameters of a changed document. -/
def changed : Params :=
  ⟨Shape.changeParams, Event.ofChanged⟩

/-- The parameters of a closed document. -/
def closed : Params :=
  ⟨Shape.closeParams, Event.ofClosed⟩

/-- The parameters of a hover. -/
def hover : Params :=
  ⟨Shape.hoverParams, Event.ofHover⟩

/-- The parameters of a completion. -/
def completion : Params :=
  ⟨Shape.completionParams, Event.ofCompletion⟩

end Params
end LmntalServer
