import LmntalServer.Json.Number
import LmntalServer.Text.Quoted
import LmntalServer.Uri.Basic

/-!
# Faults of parameters

Main definitions:

* `DecodeError`: why a value is not of a shape.
* `DecodeError.message`: the same in words.
* `Json.describe`: a value as faults name it.
-/

namespace LmntalServer

/-- The ways in which a value fails to be of a shape. -/
inductive DecodeError where
  | missingField (name : String)
  | wrongType (found expected : String)
  | wrongValue (found expected : String)
  | wrongLength (found : Nat) (expected : String)
  | unknownName (found : String) (names : List String)
  | noVariant (type : String)
  | badUri (text : String) (cause : UriError)
deriving DecidableEq, Repr

namespace DecodeError

/-- Some names of which one is expected. -/
def expectedNames (names : List String) : String :=
  match names.map fun name => "`" ++ name ++ "`" with
  | [name] => name
  | [one, other] => one ++ " or " ++ other
  | names => "one of " ++ ", ".intercalate names

/-- What is wrong with a value, in words. -/
def message : DecodeError → String
  | missingField name => "missing field `" ++ name ++ "`"
  | wrongType found expected => "invalid type: " ++ found ++ ", expected " ++ expected
  | wrongValue found expected => "invalid value: " ++ found ++ ", expected " ++ expected
  | wrongLength found expected =>
      "invalid length " ++ toString found ++ ", expected " ++ expected
  | unknownName found names =>
      "unknown variant `" ++ found ++ "`, expected " ++ expectedNames names
  | noVariant type => "data did not match any variant of untagged enum " ++ type
  | badUri text cause => cause.message ++ ": " ++ quoted text

end DecodeError

/-- A number of elements, in words. -/
def countElements (n : Nat) : String :=
  toString n ++ if n = 1 then " element" else " elements"

namespace Json

/-- A value as faults name it. -/
def describe : Json → String
  | null => "null"
  | bool b => "boolean `" ++ toString b ++ "`"
  | number n =>
      match n.value? with
      | .ok v => v.describe
      | .error _ => "number"
  | string s => "string " ++ quoted s
  | array _ => "sequence"
  | object _ => "map"

end Json
end LmntalServer
