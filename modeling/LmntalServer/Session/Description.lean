import LmntalServer.Session.Basic
import LmntalServer.Text.Quoted

/-!
# Descriptions

A session and the URI of its scanned document can be described in one line each, for those who
look for faults.

Main definitions:

* `Host.description`, `Uri.description`: the parts of a URI.
* `Session.description`: the sizes of a session and its scanned document.
-/

namespace LmntalServer

/-- The description of a value that may be absent. -/
def optionDescription {α : Type} (describe : α → String) : Option α → String
  | none => "None"
  | some a => "Some(" ++ describe a ++ ")"

namespace Host

/-- The kind and the text of a host.  An address that holds an address of 32 bits shows it. -/
def description : Host → String
  | domain name => "Domain(" ++ quoted name ++ ")"
  | ipv4 address => "Ipv4(" ++ address.render ++ ")"
  | ipv6 address =>
      match address.mapped? with
      | some held => "Ipv6(::ffff:" ++ held.render ++ ")"
      | none => "Ipv6(" ++ address.render ++ ")"

end Host

namespace Uri

/-- The parts of a URI in order. -/
def description (u : Uri) : String :=
  let authority := u.authority.getD ⟨"", none, none, none⟩
  "Url \x7b scheme: " ++ quoted u.scheme
    ++ ", cannot_be_a_base: " ++ toString u.isOpaque
    ++ ", username: " ++ quoted authority.username
    ++ ", password: " ++ optionDescription quoted authority.password
    ++ ", host: " ++ optionDescription Host.description authority.host
    ++ ", port: " ++ optionDescription toString authority.port
    ++ ", path: " ++ quoted u.path
    ++ ", query: " ++ optionDescription quoted u.query
    ++ ", fragment: " ++ optionDescription quoted u.fragment ++ " \x7d"

end Uri

namespace Session

/-- The number of open documents, the number of library entries, and the scanned document. -/
def description (s : Session) : String :=
  "LmntalBackend \x7b documents_count: " ++ toString s.documents.size
    ++ ", library_entries: " ++ toString s.library.size
    ++ ", scanned_document: " ++ optionDescription Uri.description s.symbols.document ++ " \x7d"

end Session
end LmntalServer
