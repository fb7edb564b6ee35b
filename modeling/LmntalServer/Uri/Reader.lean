import LmntalServer.Uri.Host
import LmntalServer.Uri.Path

/-!
# Reading URIs

A text is read from left to right: the scheme, the host of a scheme that has one, the path, the
query and the fragment.  Blanks around the text do not count, nor do tabs and line breaks inside
it, but for one place in the path of a file.  Three kinds of schemes differ: files, the other
special schemes, which always have a host and a path and for which a backslash is a slash, and all
the rest.

Main definitions:

* `Uri.readScheme?`, `Uri.readAuthority`, `Uri.readSuffix`: the parts of a URI.
* `Uri.parse`: the URI of a text.
-/

namespace LmntalServer
namespace Uri

/-! ## Schemes -/

/-- The kinds of schemes. -/
inductive SchemeKind where
  | file
  | special
  | other
deriving DecidableEq, Repr

/-- Whether a backslash is a slash. -/
def SchemeKind.isSpecial : SchemeKind → Bool
  | file => true
  | special => true
  | other => false

/-- The kind of a scheme. -/
def schemeKind (scheme : String) : SchemeKind :=
  if scheme = "file" then .file
  else if ["http", "https", "ws", "wss", "ftp"].contains scheme then .special
  else .other

/-- The port that a scheme stands for, which is not written out. -/
def defaultPort? (scheme : String) : Option Nat :=
  match scheme with
  | "http" => some 80
  | "ws" => some 80
  | "https" => some 443
  | "wss" => some 443
  | "ftp" => some 21
  | _ => none

/-- Whether a character may stand in a scheme. -/
def isSchemeChar (c : Char) : Bool :=
  c.isAlphanum || c = '+' || c = '-' || c = '.'

/-- Reads a scheme: a letter and what else may stand in a scheme, up to a colon.  The scheme is
given in lower case, with what follows the colon. -/
def readScheme? (t : Text) : Option (String × Text) :=
  match t with
  | c :: _ =>
      if c.isAlpha then
        match t.dropWhile isSchemeChar with
        | ':' :: rest => some (String.ofList ((t.takeWhile isSchemeChar).map Char.toLower), rest)
        | _ => none
      else none
  | [] => none

/-! ## Hosts -/

/-- Whether a character ends the part of a URI that names a host. -/
def endsAuthority (special : Bool) (c : Char) : Bool :=
  isSlash special c || c = '?' || c = '#'

/-- Reads a user name and a password, which a colon separates.  An empty password is none. -/
def readUserinfo (t : Text) : String × Option String :=
  let write (t : Text) : String := String.ofList (escape userinfoSet t)
  match t.dropWhile (· ≠ ':') with
  | _ :: c :: word => (write (t.takeWhile (· ≠ ':')), some (write (c :: word)))
  | _ => (write (t.takeWhile (· ≠ ':')), none)

/-- Splits a host from its port at the first colon outside square brackets. -/
def splitHost (bracketed : Bool) : Text → Text × Text
  | [] => ([], [])
  | c :: t =>
      if c = ':' ∧ bracketed = false then ([], c :: t)
      else
        let bracketed := if c = '[' then true else if c = ']' then false else bracketed
        let (host, port) := splitHost bracketed t
        (c :: host, port)

/-- Reads a port, given the one that is not written out.  No digits are no port. -/
def readPort (default : Option Nat) (digits : Text) : Except UriError (Option Nat) :=
  if digits = [] then .ok none
  else
    let n := natOfDigits digits
    if n > 65535 then .error .invalidPort
    else if default = some n then .ok none
    else .ok (some n)

/-- Reads the part of a URI that names a host, after the two slashes, and gives what follows it.
The user ends at the last at sign; after an empty user, and before a port, a host is required. -/
def readAuthority (scheme : String) (t : Text) : Except UriError (Authority × Text) := do
  let special := (schemeKind scheme).isSpecial
  let region := t.takeWhile (!endsAuthority special ·)
  let rest := t.dropWhile (!endsAuthority special ·)
  let parts := Text.pieces (· = '@') region
  let user := Text.join '@' parts.dropLast
  let place := parts.getLastD []
  if parts.length = 2 ∧ user = [] ∧ place = [] ∧ rest ≠ [] then throw .emptyHost
  let (username, password) := readUserinfo user
  let (hostText, portText) := splitHost false place
  let host ←
    if special then
      if hostText = [] then throw .emptyHost else (Host.readSpecial hostText).map some
    else Host.readOther hostText
  let digits := (portText.drop 1).takeWhile Char.isDigit
  let afterPort := (portText.drop 1).dropWhile Char.isDigit
  if host = none ∧ portText ≠ [] then throw .emptyHost
  let port ← readPort (defaultPort? scheme) digits
  if afterPort.head?.any (· ≠ '\\') then throw .invalidPort
  if host = none ∧ (username ≠ "" ∨ password.isSome) then throw .emptyHost
  return (⟨username, password, host, port⟩, afterPort ++ rest)

/-! ## Query and fragment -/

/-- Whether a character ends the path of a URI. -/
def endsPath (c : Char) : Bool :=
  c = '?' || c = '#'

/-- Reads what follows the path of a URI: a query after a question mark, and a fragment after a
number sign. -/
def readSuffix (special : Bool) : Text → Option String × Option String
  | '?' :: t =>
      let query := String.ofList (escape (querySet special) (t.takeWhile (· ≠ '#')))
      match t.dropWhile (· ≠ '#') with
      | _ :: f => (some query, some (String.ofList (escape fragmentSet f)))
      | [] => (some query, none)
  | '#' :: f => (none, some (String.ofList (escape fragmentSet f)))
  | _ => (none, none)

/-! ## Whole URIs -/

/-- A text without the control characters and blanks around it. -/
def trimmed (t : Text) : Text :=
  let blank (c : Char) : Bool := c.toNat ≤ 0x20
  ((t.dropWhile blank).reverse.dropWhile blank).reverse

/-- A URI of its parts, the path and what follows it still together. -/
def assemble (scheme : String) (authority : Option Authority) (readPath : Text → Text)
    (t : Text) : Uri :=
  let (query, fragment) := readSuffix (schemeKind scheme).isSpecial (t.dropWhile (!endsPath ·))
  ⟨scheme, authority, String.ofList (readPath (t.takeWhile (!endsPath ·))), query, fragment⟩

/-- A text without the slash in front. -/
def dropSlash (special : Bool) : Text → Text
  | c :: t => if isSlash special c then t else c :: t
  | [] => []

/-- Reads the path of a file on a host, and what follows it.  Before a drive letter the host is
dropped. -/
def readFileOn (host : Option Host) (t : Text) : Uri :=
  let (path, drive) := readFilePath (t.takeWhile (!endsPath ·))
  let host := if drive then none else host
  assemble "file" (some ⟨"", none, host, none⟩) (fun _ => path)
    (unbroken (t.dropWhile (!endsPath ·)))

/-- Reads a file on a host that is named, and the path after it.  The machine itself is no host. -/
def readFileAt (name : Text) (t : Text) : Except UriError Uri := do
  let host ← Host.readSpecial name
  if host = .domain "localhost" then return readFileOn none t
  else return readFileOn (some host) (dropSlash true t)

/-- Reads a file, in a text that may still hold breaks.  After two slashes comes a host, unless it
is a drive letter. -/
def readFile (t : Text) : Except UriError Uri :=
  match t.dropWhile isBreak with
  | a :: afterSlash =>
      if isSlash true a then
        match afterSlash.dropWhile isBreak with
        | b :: afterSlashes =>
            if isSlash true b then
              let name := unbroken (afterSlashes.takeWhile (!endsAuthority true ·))
              if name = [] ∨ isDriveLetter name then .ok (readFileOn none afterSlashes)
              else readFileAt name (afterSlashes.dropWhile (!endsAuthority true ·))
            else .ok (readFileOn none afterSlash)
        | [] => .ok (readFileOn none afterSlash)
      else .ok (readFileOn none t)
  | [] => .ok (readFileOn none [])

/-- Reads a URI of a special scheme that is no file, which has a host and a path. -/
def readSpecial (scheme : String) (t : Text) : Except UriError Uri := do
  let (authority, rest) ← readAuthority scheme (t.dropWhile (isSlash true))
  return assemble scheme (some authority) (fun t => readPath true (dropSlash true t)) rest

/-- Reads a URI of any other scheme.  Two slashes begin a host, after which the path may be empty,
one slash begins a path, and anything else is an opaque path. -/
def readOther (scheme : String) (t : Text) : Except UriError Uri :=
  match t with
  | '/' :: '/' :: rest => do
      let (authority, rest) ← readAuthority scheme rest
      let path (t : Text) : Text := if t = [] then [] else readPath false (dropSlash false t)
      return assemble scheme (some authority) path rest
  | '/' :: rest => .ok (assemble scheme none (readPath false) rest)
  | t => .ok (assemble scheme none (escape controlSet) t)

/-- The URI of a text. -/
def parse (s : String) : Except UriError Uri :=
  let t := trimmed s.toList
  match readScheme? (unbroken t) with
  | none => .error .relativeWithoutBase
  | some (scheme, rest) =>
      match schemeKind scheme with
      | .file => readFile ((t.dropWhile (· ≠ ':')).drop 1)
      | .special => readSpecial scheme rest
      | .other => readOther scheme rest

end Uri
end LmntalServer
