import LmntalServer.Text.Units

/-!
# Pieces between separators

Main definitions:

* `Text.pieces`: the pieces of a text between the characters of a class.
* `Text.afterLast?`: what follows the last occurrence of a character.
-/

namespace LmntalServer
namespace Text

/-- Puts a character before the first of some pieces. -/
def consPiece (c : Char) : List Text → List Text
  | [] => [[c]]
  | p :: ps => (c :: p) :: ps

/-- The pieces of a text between the characters of a class, empty ones included. -/
def pieces (sep : Char → Bool) : Text → List Text
  | [] => [[]]
  | c :: t => if sep c then [] :: pieces sep t else consPiece c (pieces sep t)

/-- What follows the last occurrence of a character, if it occurs. -/
def afterLast? (sep : Char) (t : Text) : Option Text :=
  if t.contains sep then (pieces (· = sep) t).getLast? else none

/-- Pieces joined by a character. -/
def join (sep : Char) : List Text → Text
  | [] => []
  | [p] => p
  | p :: ps => p ++ sep :: join sep ps

end Text
end LmntalServer
