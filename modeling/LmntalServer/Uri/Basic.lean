import LmntalServer.Address.Ipv6

/-!
# URIs

A URI names a document.  It is kept by its normalized parts, so that two URIs name the same
document exactly when they are equal.

Main definitions:

* `Uri`, `Authority`, `Host`: the parts of a URI.
* `Uri.render`: the text of a URI.
* `Uri.fileName?`: the last segment of its path.
* `UriError`: why a text is not a URI.
-/

namespace LmntalServer

/-- A host: a domain name or another name, or an address. -/
inductive Host where
  | domain (name : String)
  | ipv4 (address : Ipv4)
  | ipv6 (address : Ipv6)
deriving DecidableEq, Repr, Inhabited

/-- The part of a URI that names a host: user name, password, host and port.  An absent user name
is empty. -/
structure Authority where
  username : String
  password : Option String
  host : Option Host
  port : Option Nat
deriving DecidableEq, Repr, Inhabited

/-- A normalized URI.  The path begins with a slash, or is opaque, or is empty after a host. -/
structure Uri where
  scheme : String
  authority : Option Authority
  path : String
  query : Option String
  fragment : Option String
deriving DecidableEq, Repr, Inhabited

/-- The ways in which a text fails to be a URI. -/
inductive UriError where
  | relativeWithoutBase
  | emptyHost
  | invalidPort
  | invalidHost
  | invalidDomain
  | invalidIpv4
  | invalidIpv6
deriving DecidableEq, Repr

namespace UriError

/-- What is wrong with a text that is not a URI. -/
def message : UriError → String
  | relativeWithoutBase => "relative URL without a base"
  | emptyHost => "empty host"
  | invalidPort => "invalid port number"
  | invalidHost => "invalid domain character"
  | invalidDomain => "invalid international domain name"
  | invalidIpv4 => "invalid IPv4 address"
  | invalidIpv6 => "invalid IPv6 address"

end UriError

namespace Host

/-- The text of a host.  An address of 128 bits stands between square brackets. -/
def render : Host → String
  | domain name => name
  | ipv4 address => address.render
  | ipv6 address => "[" ++ address.render ++ "]"

end Host

namespace Authority

/-- The text of a host with its user and port. -/
def render (a : Authority) : String :=
  let user :=
    match a.username, a.password with
    | "", none => ""
    | name, none => name ++ "@"
    | name, some word => name ++ ":" ++ word ++ "@"
  let host :=
    match a.host with
    | none => ""
    | some h => h.render
  let port :=
    match a.port with
    | none => ""
    | some n => ":" ++ toString n
  user ++ host ++ port

end Authority

namespace Uri

/-- The text of a URI.  A path that begins with two slashes would be read as a host where there is
none, and is set off by a dot. -/
def render (u : Uri) : String :=
  let host :=
    match u.authority with
    | some a => "//" ++ a.render
    | none => if u.path.startsWith "//" then "/." else ""
  let query :=
    match u.query with
    | none => ""
    | some q => "?" ++ q
  let fragment :=
    match u.fragment with
    | none => ""
    | some f => "#" ++ f
  u.scheme ++ ":" ++ host ++ u.path ++ query ++ fragment

/-- Whether the text after the scheme does not begin with a slash, so that the path has no
segments. -/
def isOpaque (u : Uri) : Bool :=
  u.authority.isNone && !u.path.startsWith "/"

/-- The segments of a path that begins with a slash. -/
def segments? (u : Uri) : Option (List Text) :=
  match u.path.toList with
  | '/' :: t => some (Text.pieces (· = '/') t)
  | _ => none

/-- The last segment of the path, unless it is empty or there are no segments. -/
def fileName? (u : Uri) : Option String :=
  match u.segments?.bind List.getLast? with
  | some (c :: t) => some (String.ofList (c :: t))
  | _ => none

/-- What follows the last point of the path. -/
def extension? (u : Uri) : Option String :=
  (Text.afterLast? '.' u.path.toList).map String.ofList

end Uri
end LmntalServer
