import LmntalServer.Text.Hex
import LmntalServer.Text.Pieces

/-!
# Tables of characters

A property that gives characters other characters is a long list, which is kept as text: entries
between spaces, each a character and what it is given, as code points in hexadecimal.  An entry is
`C=D` or `C=D.E.F` for one character `C`, `A-B=D` for all characters from `A` to `B`, of which `A`
is given `D`, the next one the character after `D` and so on, and `A-B/2=D` for every second one.

Main definitions:

* `CharRow`: an entry.
* `CharTable`: a list of entries.
* `CharTable.ofRows`: the table of some lines of text.
* `CharTable.image?`: what a character is given.
* `CharTable.preimage?`: the character that is given some others.
-/

namespace LmntalServer

/-- An entry of a table: every `step`-th character of a range, and what the first is given. -/
structure CharRow where
  first : Nat
  last : Nat
  step : Nat
  image : List Nat
deriving DecidableEq, Repr

namespace CharRow

/-- The number of a text in hexadecimal. -/
def readHex (t : Text) : Nat :=
  t.foldl (fun n c => 16 * n + (hexValue? c).getD 0) 0

/-- An entry of its text. -/
def ofText (t : Text) : CharRow :=
  let keys := t.takeWhile (· ≠ '=')
  let image := (Text.pieces (· = '.') ((t.dropWhile (· ≠ '=')).drop 1)).map readHex
  let range := keys.takeWhile (· ≠ '/')
  match Text.pieces (· = '-') range, (keys.dropWhile (· ≠ '/')).drop 1 with
  | [first, last], [] => ⟨readHex first, readHex last, 1, image⟩
  | [first, last], step => ⟨readHex first, readHex last, readHex step, image⟩
  | _, _ => ⟨readHex range, readHex range, 1, image⟩

/-- What a character is given by an entry. -/
def image? (row : CharRow) (c : Char) : Option Text :=
  let n := c.toNat - row.first
  if row.first ≤ c.toNat ∧ c.toNat ≤ row.last ∧ n % row.step = 0 then
    some (row.image.map fun d => Char.ofNat (d + n))
  else none

end CharRow

/-- A list of entries. -/
abbrev CharTable :=
  List CharRow

namespace CharTable

/-- The table of some lines of text. -/
def ofRows (lines : List String) : CharTable :=
  lines.flatMap fun line => (Text.pieces (· = ' ') line.toList).map CharRow.ofText

/-- What a character is given. -/
def image? (table : CharTable) (c : Char) : Option Text :=
  table.findSome? (·.image? c)

/-- The character that is given some others by an entry of its own. -/
def preimage? (table : CharTable) (t : Text) : Option Char :=
  (table.find? (·.image = t.map Char.toNat)).map fun row => Char.ofNat row.first

end CharTable

example : (CharTable.ofRows ["41=61 C0-C2=E0", "100-104/2=101 1E9=6C.6A"]).image? '\u0102'
    = some ['\u0103'] := by
  decide +kernel

end LmntalServer
