import LmntalServer.Library.Basic
import LmntalServer.Symbol.Table
import LmntalServer.Word

/-!
# Hover

A hover shows what is known of the word at a position: the library entry of the word, or else the
atom that the scanned document defines under it.  The library comes first, so an atom of the same
name is hidden behind it.

Main definitions:

* `Hover`: the text that is shown and the range it is about.
* `describe?`: what is known of a word.
* `hover`: the hover at a position.
-/

namespace LmntalServer

/-- A text in Markdown and the range that it is about. -/
structure Hover where
  markdown : String
  range : Range
deriving DecidableEq, Repr, Inhabited

/-- What is known of a name. -/
def describe? (library : Library) (symbols : SymbolTable) (name : String) : Option String :=
  match library.get? name with
  | some entry => some entry.markdown
  | none => (symbols.lookup? name).map SymbolEntry.markdown

/-- A library entry hides an atom of the same name. -/
theorem describe?_of_library {library : Library} {name : String} {e : LibraryEntry}
    (h : library.get? name = some e) (symbols : SymbolTable) :
    describe? library symbols name = some e.markdown := by
  simp [describe?, h]

/-- The hover at a position of a text. -/
def hover (library : Library) (symbols : SymbolTable) (t : Text) (p : Position) : Option Hover := do
  let word ← t.wordAt p
  let markdown ← describe? library symbols (String.ofList word.text)
  return ⟨markdown, word.range⟩

end LmntalServer
