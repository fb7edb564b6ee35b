import LmntalServer.File.Error
import LmntalServer.Library.Bundled
import LmntalServer.Library.Reader
import LmntalServer.Text.Quoted

/-!
# Loading the library

The library comes from a file if the path of one is given, and else it is the bundled one.

Main definitions:

* `LibraryError`: why there is no library.
* `Library.ofData`, `Library.ofBytes`, `Library.load`: the library of some data, of a file, and of
  an optional path.
-/

namespace LmntalServer

/-- The reasons why there is no library: its file cannot be read, or its data is malformed. -/
inductive LibraryError where
  | unreadable (path : String) (cause : FileError)
  | malformed (data : Text) (fault : Fault)
deriving DecidableEq, Repr

namespace LibraryError

/-- Why there is no library, in words. -/
def message : LibraryError → String
  | unreadable path cause =>
      "failed to read library file " ++ quoted path ++ ": " ++ cause.message
  | malformed data fault => "malformed library data: " ++ fault.message data

end LibraryError

namespace Library

/-- The library of some data. -/
def ofData (data : Text) : Except LibraryError Library :=
  match read data with
  | .ok library => .ok library
  | .error fault => .error (.malformed data fault)

/-- The library of the bytes of a file, which must be text. -/
def ofBytes (path : String) (bytes : ByteArray) : Except LibraryError Library :=
  match String.fromUTF8? bytes with
  | none => .error (.unreadable path .notText)
  | some data => ofData data.toList

/-- The library of an optional path, given how files are read. -/
def load (readFile : String → Except FileError ByteArray) (path : Option String) :
    Except LibraryError Library :=
  match path with
  | none => .ok bundled
  | some path =>
      match readFile path with
      | .error cause => .error (.unreadable path cause)
      | .ok bytes => ofBytes path bytes

@[simp]
theorem load_none (readFile : String → Except FileError ByteArray) :
    load readFile none = .ok bundled :=
  rfl

end Library
end LmntalServer
