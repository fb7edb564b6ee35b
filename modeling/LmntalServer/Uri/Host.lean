import LmntalServer.Domain.Basic
import LmntalServer.Uri.Basic
import LmntalServer.Uri.Escape

/-!
# Reading hosts

Square brackets hold an address of 128 bits.  What else stands for a host depends on the scheme:
in special schemes it is a domain name, unless it ends in a number and so has to be an address of
32 bits; in all other schemes it is kept as it is written.

Main definitions:

* `Host.readBracketed`: an address between square brackets.
* `Host.readSpecial`, `Host.readOther`: the hosts of both kinds of schemes.
-/

namespace LmntalServer
namespace Host

/-- Reads what begins with a square bracket. -/
def readBracketed (t : Text) : Except UriError Host :=
  match t.getLast?, Ipv6.read? t.dropLast with
  | some ']', some address => .ok (.ipv6 address)
  | _, _ => .error .invalidIpv6

/-- The domain name in ASCII that an escaped text stands for. -/
def domainOf? (t : Text) : Option Text :=
  (String.fromUTF8? ⟨(Uri.unescape t).toArray⟩).bind fun s => Domain.toAscii? s.toList

/-- Reads the host of a special scheme. -/
def readSpecial (t : Text) : Except UriError Host :=
  match t with
  | '[' :: t => readBracketed t
  | t =>
      match domainOf? t with
      | none => .error .invalidDomain
      | some [] => .error .emptyHost
      | some name =>
          if Ipv4.endsInNumber name then
            match Ipv4.read? name with
            | some address => .ok (.ipv4 address)
            | none => .error .invalidIpv4
          else .ok (.domain (String.ofList name))

/-- The characters that may not stand in the host of any other scheme. -/
def forbiddenChars : Text :=
  "\x00\t\n\r #/:<>?@[\\]^|".toList

/-- Reads the host of any other scheme, which may be absent. -/
def readOther (t : Text) : Except UriError (Option Host) :=
  match t with
  | [] => .ok none
  | '[' :: t => (readBracketed t).map some
  | t =>
      if t.any forbiddenChars.contains then .error .invalidHost
      else .ok (some (.domain (String.ofList (Uri.escape Uri.controlSet t))))

end Host
end LmntalServer
