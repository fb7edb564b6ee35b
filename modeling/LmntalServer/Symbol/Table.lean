import LmntalServer.Dictionary
import LmntalServer.Symbol.Head
import LmntalServer.Uri.Basic

/-!
# Symbol tables

A symbol table holds the atoms that the rule heads of one document define.  It is always built
from the whole text of the document, and of several heads with one name the last counts.

Main definitions:

* `SymbolEntry`, `SymbolTable`: the atoms with their lines.
* `SymbolTable.scan`: the table of a text.
* `SymbolEntry.markdown`: what a hover shows of an atom.
-/

namespace LmntalServer

/-- An atom that a rule head defines: its name, the line of the head counted from zero, and the
document. -/
structure SymbolEntry where
  name : String
  line : UInt32
  document : Uri
deriving DecidableEq, Repr, Inhabited

namespace SymbolEntry

/-- What a hover shows of an atom: its name, the file and the line counted from one. -/
def markdown (e : SymbolEntry) : String :=
  let file := e.document.fileName?.getD e.document.render
  "**" ++ e.name ++ "** is a user-defined atom.\n\nDefined in `" ++ file ++ "` at line "
    ++ toString (e.line + 1) ++ "."

end SymbolEntry

/-- The atoms that one document defines, and the document; none before the first scan. -/
structure SymbolTable where
  document : Option Uri
  entries : Dictionary SymbolEntry
deriving DecidableEq

namespace SymbolTable

/-- The table before any scan. -/
def empty : SymbolTable :=
  ⟨none, Dictionary.empty⟩

instance : Inhabited SymbolTable :=
  ⟨empty⟩

@[simp]
theorem document_empty : empty.document = none :=
  rfl

/-- The atom that a head defines. -/
def entryOf (document : Uri) (h : Head) : SymbolEntry :=
  ⟨String.ofList h.name, h.line.toUInt32, document⟩

/-- The table of a text. -/
def scan (t : Text) (document : Uri) : SymbolTable :=
  let entries := t.heads.map (entryOf document)
  ⟨some document, Dictionary.ofList (entries.map fun e => (e.name, e))⟩

@[simp]
theorem document_scan (t : Text) (document : Uri) : (scan t document).document = some document :=
  rfl

/-- The atom of a name. -/
def lookup? (table : SymbolTable) (name : String) : Option SymbolEntry :=
  table.entries.get? name

/-- The names of the atoms in increasing order. -/
def names (table : SymbolTable) : List String :=
  table.entries.names

/-- The number of atoms. -/
def size (table : SymbolTable) : Nat :=
  table.entries.size

@[simp]
theorem lookup?_empty (name : String) : empty.lookup? name = none :=
  rfl

end SymbolTable
end LmntalServer
