import LmntalServer.Text.Position

/-!
# Edits

A client sends a list of changes, each of which either replaces a range or the whole text.  The
changes apply one after another, each to the text that the one before it left.

Main definitions:

* `Text.splice`: the replacement of a slice.
* `Change`, `Change.apply`: one change.
* `Text.edit`: a list of changes.
-/

namespace LmntalServer

namespace Text

/-- A text with the characters from `start` up to `stop` replaced. -/
def splice (t : Text) (start stop : Nat) (replacement : Text) : Text :=
  t.take start ++ replacement ++ t.drop stop

end Text

/-- One change of a text: a replacement of the characters in a range, or of everything if there is
no range. -/
structure Change where
  range : Option Range
  text : Text
deriving DecidableEq, Repr, Inhabited

namespace Change

/-- The text after a change.  A range that ends before it starts is empty, and the change inserts
at its start. -/
def apply (t : Text) (c : Change) : Text :=
  match c.range with
  | none => c.text
  | some r =>
      let start := t.offset r.start
      t.splice start (max start (t.offset r.stop)) c.text

@[simp]
theorem apply_none (t s : Text) : apply t ⟨none, s⟩ = s :=
  rfl

theorem apply_some (t s : Text) (r : Range) :
    apply t ⟨some r, s⟩ =
      t.splice (t.offset r.start) (max (t.offset r.start) (t.offset r.stop)) s :=
  rfl

end Change

namespace Text

/-- The text after some changes, from first to last. -/
def edit (t : Text) (changes : List Change) : Text :=
  changes.foldl Change.apply t

@[simp]
theorem edit_cons (t : Text) (c : Change) (cs : List Change) :
    edit t (c :: cs) = edit (c.apply t) cs :=
  rfl

end Text
end LmntalServer
