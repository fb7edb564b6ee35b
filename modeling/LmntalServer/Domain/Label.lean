import LmntalServer.Domain.Mapping
import LmntalServer.Domain.Punycode
import LmntalServer.Text.Composed
import LmntalServer.Text.Direction
import LmntalServer.Text.Joining

/-!
# Labels

A domain name consists of labels, which are read in a normal form: without differences of case and
width, and composed.  A label may be given by its letters or in ASCII, behind a mark of four
characters.

Main definitions:

* `Domain.normalize?`: the normal form of a text.
* `Label`: a label by its letters and in ASCII.
* `Label.read?`: the label of a text in normal form.
* `Label.isDirected`: whether the directions of its letters go together.
-/

namespace LmntalServer
namespace Domain

/-- The normal form of a text, unless a character may not occur in it. -/
def normalize? (t : Text) : Option Text :=
  (t.mapM replace?).map fun parts => Text.composed parts.flatten

end Domain

/-- A label by its letters, and in ASCII. -/
structure Label where
  letters : Text
  ascii : Text
deriving DecidableEq, Repr

namespace Label

/-- What a label in ASCII begins with if it stands for other letters. -/
def asciiMark : Text :=
  "xn--".toList

/-! ## Joiners -/

/-- Whether a letter that joins on one side comes first, up to characters across which letters
join. -/
def meets (joins : Char → Bool) (t : Text) : Bool :=
  (t.dropWhile isTransparent).head?.any joins

/-- Whether a joiner has something to do between two texts, of which the first is given from its
end: it comes after a sign that takes the vowel from a letter, or keeps joining letters apart. -/
def isJoinerAt (before : Text) (joiner : Char) (after : Text) : Bool :=
  before.head?.any (combiningClass · = viramaClass)
    || (joiner = '\u200c' && meets joinsNext before && meets joinsPrevious after)

/-- Whether all joiners of a text have something to do, after a text that is given from its end. -/
def hasJoinersInPlace (before : Text) : Text → Bool
  | [] => true
  | c :: t =>
      (!Domain.isJoiner c || isJoinerAt before c t) && hasJoinersInPlace (c :: before) t

/-! ## Directions -/

/-- Whether a direction may stand in a label that begins with a letter written from left to
right. -/
def fitsLeft : Direction → Bool
  | .right | .arabicNumber => false
  | _ => true

/-- Whether the directions of a label go together in a domain name with letters that are written
from right to left: the first is that of a letter, the last but for marks that of a letter or a
number, no letters go the other way, and from right to left there are not two kinds of numbers. -/
def directionsAgree (ds : List Direction) : Bool :=
  let last := (ds.reverse.dropWhile (· = .mark)).head?
  match ds with
  | [] => true
  | .left :: _ => ds.all fitsLeft && (last = some .left || last = some .europeanNumber)
  | .right :: _ =>
      ds.all (· ≠ .left)
        && (last = some .right || last = some .europeanNumber || last = some .arabicNumber)
        && !(ds.contains .europeanNumber && ds.contains .arabicNumber)
  | _ => false

/-- The directions of the letters of a label. -/
def directions (l : Label) : List Direction :=
  l.letters.map direction

/-- Whether the directions of its letters go together. -/
def isDirected (l : Label) : Bool :=
  directionsAgree l.directions

/-- Whether there is a letter or a digit that is written from right to left. -/
def isRightToLeft (l : Label) : Bool :=
  l.directions.any fun d => d = .right || d = .arabicNumber

/-! ## Reading -/

/-- Whether a text in normal form is good as the letters of a label. -/
def isGood (t : Text) : Bool :=
  !t.any Domain.isReserved && !t.head?.any isMark && hasJoinersInPlace [] t

/-- Reads a label that is given by its letters. -/
def ofLetters? (t : Text) : Option Label :=
  if isGood t then
    some ⟨t, if t.all Punycode.isAscii then t else asciiMark ++ Punycode.encode t⟩
  else none

/-- Reads a label that is given in ASCII, without the mark before it.  It has to stand for a label
in normal form that needs it. -/
def ofAscii? (t : Text) : Option Label :=
  match Punycode.decode? t with
  | none => none
  | some letters =>
      if t.all Punycode.isAscii && !letters.all Punycode.isAscii && isGood letters
          && Domain.normalize? letters = some letters && !asciiMark.isPrefixOf letters then
        some ⟨letters, asciiMark ++ t⟩
      else none

/-- The label of a text in normal form. -/
def read? (t : Text) : Option Label :=
  if asciiMark.isPrefixOf t then ofAscii? (t.drop asciiMark.length) else ofLetters? t

end Label
end LmntalServer
