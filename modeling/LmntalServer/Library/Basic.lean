import LmntalServer.Dictionary

/-!
# The library of atoms

The library documents the atoms that every program may use.  It is read once and never changes.

Main definitions:

* `LibraryEntry`: the documentation of one atom.
* `Library`: the entries by name.
* `LibraryEntry.markdown`: what a hover shows of an entry.
-/

namespace LmntalServer

/-- The identifier of the language. -/
def languageId : String :=
  "lmntal"

/-- The documentation of an atom: its name, the form in which it is written, and what it does. -/
structure LibraryEntry where
  name : String
  signature : String
  description : String
deriving DecidableEq, Repr, Inhabited

namespace LibraryEntry

/-- What a hover shows of an entry: the signature as code, a rule, and the description. -/
def markdown (e : LibraryEntry) : String :=
  "```" ++ languageId ++ "\n" ++ e.signature ++ "\n```\n\n---\n\n" ++ e.description

end LibraryEntry

/-- The documented atoms by name. -/
abbrev Library :=
  Dictionary LibraryEntry

namespace Library

/-- The library of some names with their signatures and descriptions, in which the last entry of a
name counts. -/
def ofMembers (members : List (String × String × String)) : Library :=
  Dictionary.ofList (members.map fun m => (m.1, ⟨m.1, m.2.1, m.2.2⟩))

end Library
end LmntalServer
