import LmntalServer.CommandLine.Basic
import LmntalServer.Decimal.Digits

/-!
# Reading a command line

Arguments are read from left to right.  An option takes its value after an equals sign or from the
next argument, which may not look like an option.  A value from the next argument is looked at only
when the next option comes, or at the end; an argument that is no option is refused before that.

Main definitions:

* `readProcessId`: a process identifier.
* `Arguments.set`, `Arguments.switch`: the arguments with one more option.
* `Arguments.read`: what a command line says.
-/

namespace LmntalServer

/-! ## Process identifiers -/

/-- The bounds of integers of 64 bits. -/
def minInt64 : Int :=
  -0x8000000000000000

/-- The largest integer of 64 bits. -/
def maxInt64 : Int :=
  0x7FFFFFFFFFFFFFFF

/-- Reads further digits of an integer of 64 bits, which go away from zero. -/
def readDigits (negative : Bool) (n : Int) : List Char → Except ProcessIdError Int
  | [] => .ok n
  | c :: t =>
      if c.isDigit then
        let d : Int := digitValue c
        let n := if negative then 10 * n - d else 10 * n + d
        if maxInt64 < n then .error .tooLarge
        else if n < minInt64 then .error .tooSmall
        else readDigits negative n t
      else .error .invalidDigit

/-- Reads an integer of 64 bits: digits, perhaps after a sign. -/
def readInt64 : List Char → Except ProcessIdError Int
  | [] => .error .empty
  | ['+'] => .error .invalidDigit
  | ['-'] => .error .invalidDigit
  | '+' :: t => readDigits false 0 t
  | '-' :: t => readDigits true 0 t
  | t => readDigits false 0 t

/-- Reads a process identifier: an integer of 64 bits that fits into an unsigned word of 32. -/
def readProcessId (s : String) : Except ProcessIdError UInt32 :=
  match readInt64 s.toList with
  | .error e => .error e
  | .ok n => if 0 ≤ n ∧ n ≤ 0xFFFFFFFF then .ok n.toNat.toUInt32 else .error (.outOfRange n)

/-! ## Options -/

namespace Arguments

/-- Whether an option with a value is present. -/
def has (a : Arguments) : Setting → Bool
  | .logLevel => a.logLevel.isSome
  | .library => a.library.isSome
  | .clientProcessId => a.clientProcessId.isSome

/-- The arguments with a value for an option that may not be present yet.  The path of a library
may not be empty. -/
def set (a : Arguments) (option : Setting) (value : String) : Except ArgumentError Arguments :=
  if a.has option then .error (.repeatedSetting option)
  else
    match option with
    | .logLevel => .ok { a with logLevel := some value }
    | .library =>
        if value = "" then .error (.missingValue .library)
        else .ok { a with library := some value }
    | .clientProcessId =>
        match readProcessId value with
        | .ok id => .ok { a with clientProcessId := some id }
        | .error e => .error (.invalidProcessId value e)

/-- The arguments with an option without value that may not be present yet. -/
def switch (a : Arguments) : Switch → Except ArgumentError Arguments
  | .noColor =>
      if a.noColor then .error (.repeatedSwitch .noColor) else .ok { a with noColor := true }
  | .noFileLogging =>
      if a.noFileLogging then .error (.repeatedSwitch .noFileLogging)
      else .ok { a with noFileLogging := true }
  | .help => .error .helpWanted
  | .version => .error .versionWanted

/-! ## Whole command lines -/

/-- An option whose value is the next argument, and that value once it has come. -/
abbrev Pending :=
  Option (Setting × Option String)

/-- The arguments with the option that is still to be looked at. -/
def settle (a : Arguments) : Pending → Except ArgumentError Arguments
  | .none => .ok a
  | some (option, .none) => .error (.missingValue option)
  | some (option, some value) => a.set option value

/-- The forms of an argument: the end of the options, a long option with the value after its
equals sign, short options, and a word. -/
inductive Form where
  | endOfOptions
  | long (name : String) (value : Option String)
  | short (letter : Char)
  | word
deriving DecidableEq, Repr

/-- The form of an argument.  Of several short options only the first counts, since every short
option that there is ends the reading. -/
def formOf (argument : String) : Form :=
  match argument.toList with
  | ['-', '-'] => .endOfOptions
  | '-' :: '-' :: t =>
      let name := String.ofList (t.takeWhile (· ≠ '='))
      match t.dropWhile (· ≠ '=') with
      | [] => .long name .none
      | _ :: value => .long name (some (String.ofList value))
  | '-' :: c :: _ => .short c
  | _ => .word

/-- Reads the further arguments. -/
def readFrom (a : Arguments) (pending : Pending) : List String → Except ArgumentError Arguments
  | [] => a.settle pending
  | argument :: rest =>
      match formOf argument with
      | .endOfOptions =>
          match rest with
          | [] => a.settle pending
          | next :: _ => .error (.unknownArgument next)
      | .long name value =>
          match Setting.ofName? name, Switch.ofName? name, value with
          | some option, _, some value => do
              let a ← a.settle pending
              let a ← a.set option value
              a.readFrom .none rest
          | some option, _, .none => do
              let a ← a.settle pending
              a.readFrom (some (option, .none)) rest
          | .none, some option, some value => .error (.unexpectedValue option value)
          | .none, some option, .none => do
              let a ← a.settle pending
              let a ← a.switch option
              a.readFrom .none rest
          | .none, .none, _ => .error (.unknownArgument ("--" ++ name))
      | .short letter =>
          match Switch.ofLetter? letter with
          | some option => do
              let a ← a.settle pending
              let a ← a.switch option
              a.readFrom .none rest
          | .none => .error (.unknownArgument ("-" ++ String.singleton letter))
      | .word =>
          match pending with
          | some (option, .none) => a.readFrom (some (option, some argument)) rest
          | _ => .error (.unknownArgument argument)

/-- What a command line says. -/
def read (arguments : List String) : Except ArgumentError Arguments :=
  none.readFrom .none arguments

end Arguments
end LmntalServer
