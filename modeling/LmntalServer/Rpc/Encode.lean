import LmntalServer.CommandLine.Basic
import LmntalServer.Json.Basic
import LmntalServer.Session.Basic

/-!
# What the server sends

The JSON forms of the answers of a session.

Main definitions:

* `Position.toJson`, `Range.toJson`, `Hover.toJson`, `CompletionItem.toJson`: the parts.
* `serverInfo`, `announcement`: what the server says of itself.
* `Answer.toJson`: the result of a request.
-/

namespace LmntalServer

/-- The JSON form of a value that may be absent. -/
def optionToJson {α : Type} (toJson : α → Json) : Option α → Json
  | none => .null
  | some a => toJson a

namespace Position

/-- The JSON form of a position. -/
def toJson (p : Position) : Json :=
  .object [("line", .ofNat p.line.toNat), ("character", .ofNat p.column.toNat)]

end Position

namespace Range

/-- The JSON form of a range. -/
def toJson (r : Range) : Json :=
  .object [("start", r.start.toJson), ("end", r.stop.toJson)]

end Range

namespace Hover

/-- The JSON form of a hover. -/
def toJson (h : Hover) : Json :=
  .object
    [("contents", .object [("kind", .string "markdown"), ("value", .string h.markdown)]),
      ("range", h.range.toJson)]

end Hover

namespace CompletionItem

/-- The code of the items that stand for plain text. -/
def textKind : Nat :=
  1

/-- The JSON form of a completion item. -/
def toJson (item : CompletionItem) : Json :=
  .object [("label", .string item.label), ("kind", .ofNat textKind)]

end CompletionItem

/-- The code of the synchronisation by ranges. -/
def incrementalSync : Nat :=
  2

/-- What the server can do, with its name and its version. -/
def serverInfo : Json :=
  .object
    [("capabilities",
        .object
          [("textDocumentSync", .ofNat incrementalSync),
            ("hoverProvider", .bool true),
            ("completionProvider", .object [])]),
      ("serverInfo",
        .object [("name", .string serverName), ("version", .string serverVersion)])]

/-- The code of messages that inform. -/
def infoMessage : Nat :=
  3

/-- The notification that the server sends once a client is ready. -/
def announcement : Json :=
  .object
    [("jsonrpc", .string "2.0"),
      ("method", .string "window/logMessage"),
      ("params",
        .object
          [("type", .ofNat infoMessage),
            ("message", .string "LMNtal language server initialized")])]

namespace Answer

/-- The result of a request. -/
def toJson : Answer → Json
  | silence => .null
  | greeting => serverInfo
  | announcement => .null
  | farewell => .null
  | hover h => optionToJson Hover.toJson h
  | completion items => optionToJson (fun items => .array (items.map CompletionItem.toJson)) items

/-- The notifications that go with an answer. -/
def notifications : Answer → List Json
  | announcement => [LmntalServer.announcement]
  | _ => []

end Answer
end LmntalServer
