import LmntalServer.Text.Line

/-!
# Positions

A position is a line and a column of UTF-16 code units, both counted from zero in 32-bit words.
Every position resolves to an index into the text: a line past the end to the end of the text, a
column past the end of its line to the end of the line's content.

Main definitions:

* `Position`, `Range`: places as a client names them.
* `Text.offset`: the character index that a position resolves to.

Main results:

* `Text.offset_le_length`: a position resolves to a place inside the text.
-/

namespace LmntalServer

/-- A place in a text: a line and a column in UTF-16 code units, both counted from zero. -/
structure Position where
  line : UInt32
  column : UInt32
deriving DecidableEq, Repr, Inhabited

/-- The stretch of a text between two positions. -/
structure Range where
  start : Position
  stop : Position
deriving DecidableEq, Repr, Inhabited

namespace Text

/-- The character index of a position.  The column is added to the code units before the line, so
that a column inside a surrogate pair falls on the pair's character; the result is then kept
within the content of the line. -/
def offset (t : Text) (p : Position) : Nat :=
  match (lines t)[p.line.toNat]? with
  | none => t.length
  | some l =>
      let start := lineStart t p.line.toNat
      let target := units (t.take start) + p.column.toNat
      max start (min (indexOfUnit t (min target (units t))) (start + l.content.length))

/-- A line that exists ends within the text. -/
theorem lineStart_add_content_le_length {t : Text} {n : Nat} {l : Line}
    (h : (lines t)[n]? = some l) : lineStart t n + l.content.length ≤ t.length := by
  have hsplit := congrArg List.length (flatMap_chars_lines t)
  have hdrop : (lines t).drop n = l :: (lines t).drop (n + 1) := by
    rw [List.getElem?_eq_some_iff] at h
    obtain ⟨hn, rfl⟩ := h
    exact List.drop_eq_getElem_cons hn
  rw [← List.take_append_drop n (lines t), List.flatMap_append, List.length_append, hdrop,
    List.flatMap_cons, List.length_append] at hsplit
  have hchars : l.content.length ≤ l.chars.length := by
    simp [Line.chars]
  unfold lineStart
  omega

/-- A position resolves to a place inside the text. -/
theorem offset_le_length (t : Text) (p : Position) : offset t p ≤ t.length := by
  unfold offset
  split
  · exact Nat.le_refl _
  · next l hl =>
      have h := lineStart_add_content_le_length hl
      simp only
      omega

end Text
end LmntalServer
