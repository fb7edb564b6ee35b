import LmntalServer.File.Error
import LmntalServer.Text.Pieces

/-!
# Directory trees

The files below a directory, as far as reading one of them by its path is concerned.  A path is
followed name by name: every name but the last must lead to a directory, and so must the last one
if a slash follows it.

Main definitions:

* `FileTree`: the files and directories below a directory.
* `FileTree.insert`: a tree with one more file or directory.
* `FileTree.resolve`: the place that a path leads to.
* `FileTree.read`: the bytes of a file.
-/

namespace LmntalServer

/-- The files and directories below a directory, with their names from there on.  A directory has
no content.  Of several entries under one name the last counts. -/
structure FileTree where
  entries : List (List Text × Option (List UInt8))

namespace FileTree

/-- A place below the directory, by the names that lead to it; nothing for a place outside. -/
abbrev Place :=
  Option (List Text)

/-- The longest name of a file, in bytes. -/
def maxName : Nat :=
  255

/-- The longest path, in bytes. -/
def maxPath : Nat :=
  4095

/-- The empty directory. -/
def empty : FileTree :=
  ⟨[]⟩

/-- The names that lead to where a relative path points, if it stays below the directory. -/
def namesOf (path : Text) : List Text :=
  (Text.pieces (· = '/') path).foldl (fun names name =>
    if name = [] ∨ name = ['.'] then names
    else if name = ['.', '.'] then names.dropLast
    else names ++ [name]) []

/-- A tree with one more file, or with a directory if there is no content.  The directories on the
way to it are made as well. -/
def insert (tree : FileTree) (path : Text) (content : Option (List UInt8)) : FileTree :=
  let names := namesOf path
  let above := (List.range names.length).drop 1 |>.map fun n => (names.take n, none)
  ⟨tree.entries ++ above ++ [(names, content)]⟩

/-- The content of the file at a place, or nothing for a directory. -/
def content? (tree : FileTree) (names : List Text) : Option (Option (List UInt8)) :=
  if names = [] then some none
  else (tree.entries.reverse.find? (·.1 = names)).map (·.2)

/-- Whether a place is a directory. -/
def isDirectory (tree : FileTree) : Place → Bool
  | none => true
  | some names => tree.content? names = some none

/-- The place that one more name of a path leads to. -/
def follow (tree : FileTree) (place : Place) (name : Text) : Except FileError Place :=
  if !tree.isDirectory place then .error .notDirectory
  else if name = [] ∨ name = ['.'] then .ok place
  else if name = ['.', '.'] then
    match place with
    | some (n :: names) => .ok (some (n :: names).dropLast)
    | _ => .ok none
  else if maxName < name.bytes then .error .nameTooLong
  else
    match place with
    | none => .error .notFound
    | some names =>
        if (tree.content? (names ++ [name])).isSome then .ok (some (names ++ [name]))
        else .error .notFound

/-- The place where a path begins: a path that begins with a slash begins outside. -/
def origin (path : Text) : Place :=
  if path.head? = some '/' then none else some []

/-- The place that a path leads to. -/
def resolve (tree : FileTree) (path : Text) : Except FileError Place :=
  if path = [] then .error .notFound
  else if maxPath < path.bytes then .error .nameTooLong
  else (Text.pieces (· = '/') path).foldlM (follow tree) (origin path)

/-- The bytes of the file that a path leads to. -/
def read (tree : FileTree) (path : String) : Except FileError (List UInt8) := do
  if path.toList.contains '\x00' then throw .nulInName
  match ← tree.resolve path.toList with
  | none => throw .isDirectory
  | some names =>
      match (tree.content? names).join with
      | none => throw .isDirectory
      | some bytes => return bytes

end FileTree
end LmntalServer
