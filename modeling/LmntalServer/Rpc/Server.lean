import LmntalServer.Json.Canonical
import LmntalServer.Rpc.Encode
import LmntalServer.Rpc.Method

/-!
# The server

The server takes messages one after another.  It serves a session only between the initialization
and the shutdown; before and after, requests are refused and notifications are dropped.  After the
exit it takes nothing at all.  A message with an identifier is a request, and one without is a
notification.  A message of the wrong kind for its method has no effect: a notification of a
request is dropped, and a request of a notification is refused.

Main definitions:

* `Message`, `Response`, `Reply`: what goes in and what comes out.
* `Phase`, `Server`: the state of the server.
* `Server.receive`: the answer to a message.
-/

namespace LmntalServer

/-- A message of a client.  A notification has no identifier. -/
structure Message where
  id : Option Json
  method : String
  params : Option Json
deriving Inhabited

namespace Message

/-- The message of a JSON value. -/
def ofJson (v : Json) : Message :=
  let method :=
    match v.member? "method" with
    | some (.string name) => name
    | _ => ""
  ⟨v.member? "id", method, v.member? "params"⟩

end Message

/-- The refusals of requests. -/
inductive RpcError where
  | notInitialized
  | invalidRequest
  | methodNotFound (name : Option String)
  | invalidParams (reason : String)
deriving DecidableEq, Repr

namespace RpcError

/-- The code of a refusal. -/
def code : RpcError → Int
  | notInitialized => -32002
  | invalidRequest => -32600
  | methodNotFound _ => -32601
  | invalidParams _ => -32602

/-- The words of a refusal. -/
def message : RpcError → String
  | notInitialized => "Server not initialized"
  | invalidRequest => "Invalid request"
  | methodNotFound _ => "Method not found"
  | invalidParams reason => reason

/-- The JSON form of a refusal. -/
def toJson (e : RpcError) : Json :=
  let data :=
    match e with
    | methodNotFound (some name) => [("data", Json.string name)]
    | _ => []
  .object ([("code", .ofInt e.code), ("message", .string e.message)] ++ data)

end RpcError

/-- The result of a request, or the refusal of it. -/
structure Response where
  id : Json
  outcome : Except RpcError Json

namespace Response

/-- The JSON form of a response. -/
def toJson (r : Response) : Json :=
  let outcome :=
    match r.outcome with
    | .ok result => ("result", result)
    | .error e => ("error", e.toJson)
  .object [("jsonrpc", .string "2.0"), ("id", r.id), outcome]

end Response

/-- What a message brings about: a response, if it is a request, and notifications; or nothing
because the server has exited. -/
inductive Reply where
  | answered (response : Option Response) (notifications : List Json)
  | exited

namespace Reply

/-- The words for a server that has exited. -/
def exitedMessage : String :=
  "language server has exited"

/-- The reply to a message that has no effect. -/
def silent : Reply :=
  answered none []

/-- The reply that refuses a message, if it is a request. -/
def refuse (id : Option Json) (e : RpcError) : Reply :=
  answered (id.map fun id => ⟨id, .error e⟩) []

/-- The reply with a result. -/
def result (id v : Json) : Reply :=
  answered (some ⟨id, .ok v⟩) []

end Reply

/-- The phases in the life of a server. -/
inductive Phase where
  | uninitialized
  | initialized
  | shutDown
  | exited
deriving DecidableEq, Repr, Inhabited

namespace Phase

/-- The refusal of requests in a phase in which there is no service. -/
def refusal : Phase → RpcError
  | uninitialized => .notInitialized
  | _ => .invalidRequest

end Phase

/-- A server: its phase and its session. -/
structure Server where
  phase : Phase
  session : Session
deriving Inhabited

namespace Server

/-- A new server. -/
def start (library : Library) : Server :=
  ⟨.uninitialized, Session.start library⟩

/-- The parameters of a message, decoded. -/
def decode {α : Type} (read : Json → Decoded α) (m : Message) : Except RpcError α :=
  match m.params with
  | none => .error (.invalidParams "Missing params field")
  | some v =>
      match read v with
      | .ok a => .ok a
      | .error e => .error (.invalidParams e.message)

/-- Serves a request. -/
def serve (s : Server) (id : Json) : Except RpcError Event → Server × Reply
  | .error e => (s, .refuse (some id) e)
  | .ok event =>
      let r := s.session.handle event
      ({ s with session := r.1 }, .result id r.2.toJson)

/-- Serves a notification. -/
def notify (s : Server) : Except RpcError Event → Server × Reply
  | .error _ => (s, .silent)
  | .ok event =>
      let r := s.session.handle event
      ({ s with session := r.1 }, .answered none r.2.notifications)

/-- Initializes the session, once. -/
def connect (s : Server) (m : Message) : Server × Reply :=
  if s.phase ≠ .uninitialized then (s, .refuse m.id .invalidRequest)
  else
    match m.id with
    | none => (s, .silent)
    | some id =>
        match decode Params.connect.decode m with
        | .error e => (s, .refuse (some id) e)
        | .ok event => ({ s with phase := .initialized }).serve id (.ok event)

/-- Shuts the session down.  There may be no parameters. -/
def shutdown (s : Server) (m : Message) : Server × Reply :=
  if s.phase ≠ .initialized then (s, .refuse m.id s.phase.refusal)
  else
    let s := { s with phase := .shutDown }
    match m.id, m.params with
    | none, _ => (s, .silent)
    | some id, none => s.serve id (.ok .shutdown)
    | some id, some v =>
        (s, .refuse (some id)
          (.invalidParams ("Unexpected params: " ++ String.ofList v.canonical.render)))

/-- Takes a message of a method for which the session must be initialized. -/
def whenInitialized (s : Server) (m : Message) (act : Server × Reply) : Server × Reply :=
  if s.phase = .initialized then act else (s, .refuse m.id s.phase.refusal)

/-- The server after a message, and the reply. -/
def receive (s : Server) (m : Message) : Server × Reply :=
  if s.phase = .exited then (s, .exited)
  else
    match Method.ofName m.method with
    | .exit => ({ s with phase := .exited }, .silent)
    | .connect => s.connect m
    | .shutdown => s.shutdown m
    | .request params =>
        s.whenInitialized m <|
          match m.id with
          | none => (s, .silent)
          | some id => s.serve id (decode params.decode m)
    | .notification params =>
        s.whenInitialized m <|
          match m.id with
          | none => s.notify (decode params.decode m)
          | some _ => (s, .refuse m.id .invalidRequest)
    | .unserved shape =>
        s.whenInitialized m <|
          match m.id, decode (shape.decode false) m with
          | none, _ => (s, .silent)
          | some id, .error e => (s, .refuse (some id) e)
          | some id, .ok _ => (s, .refuse (some id) (.methodNotFound none))
    | .ignored => s.whenInitialized m (s, .refuse m.id .invalidRequest)
    | .cancel => (s, .refuse m.id .invalidRequest)
    | .unknown =>
        if m.method.startsWith "$/" then (s, .silent)
        else (s, .refuse m.id (.methodNotFound (some m.method)))

end Server
end LmntalServer
