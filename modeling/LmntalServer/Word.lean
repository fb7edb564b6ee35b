import LmntalServer.Text.Position
import LmntalServer.Text.Run
import LmntalServer.Text.WordChar

/-!
# The word at a position

A word is a maximal run of name characters and points on one line; points belong to words so that
a name with several segments is one word.  A position is in a word also directly after the word's
last character.

Main definitions:

* `Text.indexOfColumn`: the number of characters of a line before a column.
* `Word`, `Text.wordAt`: the word at a position and its range.
-/

namespace LmntalServer

/-- The characters of words: name characters and the point. -/
def isWordPart (c : Char) : Bool :=
  isNameChar c || c = '.'

/-- A word and the range in which it stands. -/
structure Word where
  text : Text
  range : Range
deriving DecidableEq, Repr, Inhabited

namespace Text

/-- The number of code units of a character, in a 32-bit word. -/
def charUnits32 (c : Char) : UInt32 :=
  (charUnits c).toUInt32

/-- The number of characters that begin before a column, for characters of which the first begins
at the column `units`.  A column inside a surrogate pair counts the whole pair. -/
def indexOfColumnFrom (column units : UInt32) : Text → Nat
  | [] => 0
  | c :: t =>
      if column ≤ units then 0 else indexOfColumnFrom column (units + charUnits32 c) t + 1

/-- The number of characters of a line that begin before a column. -/
def indexOfColumn (content : Text) (column : UInt32) : Nat :=
  indexOfColumnFrom column 0 content

theorem indexOfColumnFrom_le_length (column units : UInt32) (t : Text) :
    indexOfColumnFrom column units t ≤ t.length := by
  induction t generalizing units with
  | nil => exact Nat.le_refl _
  | cons c t ih =>
      simp only [indexOfColumnFrom, List.length_cons]
      split
      · exact Nat.zero_le _
      · exact Nat.succ_le_succ (ih _)

/-- The length of a text in code units, in a 32-bit word. -/
def units32 (t : Text) : UInt32 :=
  (units t).toUInt32

/-- The range of a run on a line. -/
def rangeOfRun (line : UInt32) (content : Text) (r : Run) : Range :=
  let start := units32 (content.take r.start)
  ⟨⟨line, start⟩, ⟨line, start + units32 r.text⟩⟩

/-- The word at a position: the first one that touches it. -/
def wordAt (t : Text) (p : Position) : Option Word := do
  let line ← (lines t)[p.line.toNat]?
  let cursor := indexOfColumn line.content p.column
  let run ← (runs isWordPart line.content).find? fun r => r.start ≤ cursor && cursor ≤ r.stop
  return ⟨run.text, rangeOfRun p.line line.content run⟩

/-- There is no word on a line that does not exist. -/
theorem wordAt_eq_none_of_lineCount_le {t : Text} {p : Position}
    (h : lineCount t ≤ p.line.toNat) : wordAt t p = none := by
  have hline : (lines t)[p.line.toNat]? = none := List.getElem?_eq_none h
  simp [wordAt, hline]

end Text
end LmntalServer
