import LmntalServer.Rpc.Decode

/-!
# Methods

The methods of the protocol by their names.  Some have an effect on the session, some are known but
not served, and all others are unknown.

Main definitions:

* `Method`: the kinds of methods.
* `Method.ofName`: the method of a name.
-/

namespace LmntalServer

/-- What a client may ask for.  A `request` is answered and a `notification` is not, and the
parameters of both stand for events.  The parameters of an `unserved` request are only looked at,
and an `ignored` notification has no effect; nor has the wish to `cancel` a request, which may come
at any time. -/
inductive Method where
  | connect
  | shutdown
  | exit
  | request (params : Params)
  | notification (params : Params)
  | unserved (params : Shape)
  | ignored
  | cancel
  | unknown

namespace Method

/-- The notifications that have no effect. -/
def ignoredNotifications : List String :=
  ["textDocument/willSave", "textDocument/didSave", "workspace/didChangeConfiguration",
    "workspace/didChangeWorkspaceFolders", "workspace/didCreateFiles", "workspace/didRenameFiles",
    "workspace/didDeleteFiles", "workspace/didChangeWatchedFiles"]

/-- The method of a name. -/
def ofName (name : String) : Method :=
  match name with
  | "initialize" => connect
  | "shutdown" => shutdown
  | "exit" => exit
  | "$/cancelRequest" => cancel
  | "initialized" => notification Params.ready
  | "textDocument/didOpen" => notification Params.opened
  | "textDocument/didChange" => notification Params.changed
  | "textDocument/didClose" => notification Params.closed
  | "textDocument/hover" => request Params.hover
  | "textDocument/completion" => request Params.completion
  | _ =>
      match Shape.unserved.lookup name with
      | some params => unserved params
      | none => if ignoredNotifications.contains name then ignored else unknown

end Method
end LmntalServer
