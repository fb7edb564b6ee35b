import LmntalServer.Text.CombiningClass
import LmntalServer.Text.Composition

/-!
# Composed texts

A letter with marks may be written in several ways, of which one is composed: the marks stand in
the order of their classes, and as many of them as possible are part of the letter.

Main definitions:

* `Text.decomposed`: a text with all letters apart from their marks.
* `Text.ordered`: a text with the marks in order.
* `Text.composed`: the composed form of a text.
-/

namespace LmntalServer
namespace Text

/-! ## Taking apart -/

/-- The parts of a character, and their parts in turn, down to some depth. -/
def partsOf : (depth : Nat) → Char → Text
  | 0, c => [c]
  | depth + 1, c =>
      match parts? c with
      | some (a, b) => partsOf depth a ++ partsOf depth b
      | none => [c]

/-- The depth to which characters have parts. -/
def maxDepth : Nat :=
  4

/-- A text with all letters apart from their marks. -/
def decomposed (t : Text) : Text :=
  t.flatMap (partsOf maxDepth)

/-! ## Order -/

/-- Puts a character at the end of a text, which is given from its end.  A mark goes before the
marks of higher classes. -/
def insertMark (c : Char) : Text → Text
  | [] => [c]
  | d :: t =>
      if combiningClass c ≠ 0 ∧ combiningClass c < combiningClass d then d :: insertMark c t
      else c :: d :: t

/-- A text with the marks in the order of their classes. -/
def ordered (t : Text) : Text :=
  (t.foldl (fun u c => insertMark c u) []).reverse

/-! ## Putting together -/

/-- Composes a text after a letter and some marks, which are given from the last one, that are no
part of the letter.  A mark of the class of the one before it, or of a lower class, is kept off the
letter by it. -/
def composeFrom (letter : Char) (marks : Text) : Text → Text
  | [] => letter :: marks.reverse
  | c :: t =>
      let isKeptOff := marks.head?.any fun m => combiningClass c ≤ combiningClass m
      match if isKeptOff then none else compose? letter c with
      | some d => composeFrom d marks t
      | none =>
          if combiningClass c = 0 then letter :: marks.reverse ++ composeFrom c [] t
          else composeFrom letter (c :: marks) t

/-- The composed form of a text. -/
def composed (t : Text) : Text :=
  match ordered (decomposed t) with
  | [] => []
  | c :: u => composeFrom c [] u

end Text
end LmntalServer
