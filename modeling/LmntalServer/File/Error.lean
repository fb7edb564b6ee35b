/-!
# Failures of files

Main definitions:

* `FileError`: why a file cannot be read as text, or a directory cannot be made.
* `FileError.message`: the same in words.
-/

namespace LmntalServer

/-- The ways in which an operation on a file fails. -/
inductive FileError where
  | notFound
  | alreadyExists
  | notDirectory
  | isDirectory
  | nameTooLong
  | nulInName
  | notText
  | other (code : Nat) (words : String)
deriving DecidableEq, Repr

namespace FileError

/-- The words of the operating system for a failure, or of the reader of texts. -/
def message : FileError → String
  | notFound => "No such file or directory (os error 2)"
  | alreadyExists => "File exists (os error 17)"
  | notDirectory => "Not a directory (os error 20)"
  | isDirectory => "Is a directory (os error 21)"
  | nameTooLong => "File name too long (os error 36)"
  | nulInName => "file name contained an unexpected NUL byte"
  | notText => "stream did not contain valid UTF-8"
  | other code words => words ++ " (os error " ++ toString code ++ ")"

end FileError
end LmntalServer
