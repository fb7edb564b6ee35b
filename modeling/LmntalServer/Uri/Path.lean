import LmntalServer.Text.Pieces
import LmntalServer.Uri.Escape

/-!
# Paths

The path of a URI is read segment by segment.  A segment of one dot stands for the place reached
so far, a segment of two dots for the place above it; as the last segment both leave an empty one
behind.  The root stays where it is, and so does a drive letter.

Main definitions:

* `Uri.addSegment`: the path after one more segment.
* `Uri.resolve`: the path of some segments.
* `Uri.readFilePath`: the path of a file, with its drive letter.
-/

namespace LmntalServer
namespace Uri

/-- Whether a segment is one dot, which may be escaped. -/
def isSingleDot (s : Text) : Bool :=
  let s := s.map Char.toLower
  s = ".".toList || s = "%2e".toList

/-- Whether a segment is two dots, each of which may be escaped. -/
def isDoubleDot (s : Text) : Bool :=
  let s := s.map Char.toLower
  s = "..".toList || s = ".%2e".toList || s = "%2e.".toList || s = "%2e%2e".toList

/-- Whether a segment is a drive letter, a letter followed by a colon or a bar. -/
def isDriveLetter : Text → Bool
  | [c, d] => c.isAlpha && (d = ':' || d = '|')
  | _ => false

/-- The path above a path. -/
def parent (path : List Text) : List Text :=
  if path.getLast?.any isDriveLetter then path else path.dropLast

/-- The path after one more segment. -/
def addSegment (path : List Text) (segment : Text) (last : Bool) : List Text :=
  let stop := if last then [[]] else []
  if isDoubleDot segment then parent path ++ stop
  else if isSingleDot segment then path ++ stop
  else path ++ [escape pathSet segment]

/-- The path of some segments, the last of which ends it. -/
def resolveFrom (path : List Text) : List Text → List Text
  | [] => path
  | [s] => addSegment path s true
  | s :: ss => resolveFrom (addSegment path s false) ss

/-- The path of some segments below the root. -/
def resolve (segments : List Text) : List Text :=
  resolveFrom [] segments

/-- The text of a path. -/
def renderPath (path : List Text) : Text :=
  '/' :: Text.join '/' path

/-- The characters that end a segment: the slash, and in special schemes the backslash. -/
def isSlash (special : Bool) (c : Char) : Bool :=
  c = '/' || (special && c = '\\')

/-- Reads a path below the root. -/
def readPath (special : Bool) (t : Text) : Text :=
  renderPath (resolve (Text.pieces (isSlash special) t))

/-! ## Files -/

/-- Whether a character is a tab or a line break, which counts for nothing in a URI. -/
def isBreak (c : Char) : Bool :=
  c = '\t' || c = '\n' || c = '\r'

/-- A text without tabs and line breaks. -/
def unbroken (t : Text) : Text :=
  t.filter (!isBreak ·)

/-- A drive letter with its colon that a break sets off from more characters, and those. -/
def splitDrive? (t : Text) : Option (Text × Text) :=
  match t.dropWhile isBreak with
  | c :: t =>
      match t.dropWhile isBreak with
      | ':' :: b :: t =>
          if c.isAlpha && isBreak b && unbroken t ≠ [] then some ([c, ':'], unbroken t) else none
      | _ => none
  | [] => none

/-- The path of some segments in a file, which may hold breaks, and whether it begins with a drive
letter.  The bar of a drive letter at the root becomes a colon.  A break after a drive letter at
the root stands for a slash, and what comes after it is a segment as it is. -/
def resolveFileFrom (path : List Text) : List Text → List Text × Bool
  | [] => (path, false)
  | s :: ss =>
      let more := ss.map unbroken
      match path, splitDrive? s with
      | [], some (drive, rest) => (resolveFrom [drive, escape pathSet rest] more, false)
      | _, _ =>
          let s := unbroken s
          if path = [] ∧ isDriveLetter s then (resolveFrom [s.take 1 ++ [':']] more, true)
          else if ss = [] then (addSegment path s true, false)
          else resolveFileFrom (addSegment path s false) ss

/-- A path without the empty segments in front. -/
def dropEmpty : List Text → List Text
  | [] :: s :: ss => dropEmpty (s :: ss)
  | path => path

/-- Reads the path of a file below the root, and tells whether it begins with a drive letter. -/
def readFilePath (t : Text) : Text × Bool :=
  let (path, drive) := resolveFileFrom [] (Text.pieces (isSlash true) t)
  (renderPath (dropEmpty path), drive)

example : readPath true "a/./b/%2E%2e/c".toList = "/a/c".toList := by
  decide +kernel

example : readPath true "a/b/..".toList = "/a/".toList := by
  decide +kernel

end Uri
end LmntalServer
