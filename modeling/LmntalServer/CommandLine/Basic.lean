import LmntalServer.Text.Visible

/-!
# The command line

Main definitions:

* `Arguments`: what a command line says.
* `Setting`: the options with a value, `Switch`: those without.
* `ArgumentError`: why a command line is refused, or what it asks for instead of a start.
* `helpText`, `versionText`: the answers to those questions.
-/

namespace LmntalServer

/-- The name of the server. -/
def serverName : String :=
  "lmntal-language-server"

/-- The version of the server. -/
def serverVersion : String :=
  "0.1.0"

/-- What a command line says. -/
structure Arguments where
  logLevel : Option String
  noColor : Bool
  noFileLogging : Bool
  library : Option String
  clientProcessId : Option UInt32
deriving DecidableEq, Repr

namespace Arguments

/-- The empty command line. -/
def none : Arguments :=
  ⟨.none, false, false, .none, .none⟩

instance : Inhabited Arguments :=
  ⟨none⟩

end Arguments

/-- The options with a value. -/
inductive Setting where
  | logLevel
  | library
  | clientProcessId
deriving DecidableEq, Repr

/-- The options without a value. -/
inductive Switch where
  | noColor
  | noFileLogging
  | help
  | version
deriving DecidableEq, Repr

namespace Setting

/-- The long name of an option. -/
def name : Setting → String
  | logLevel => "log-level"
  | library => "library"
  | clientProcessId => "client-process-id"

/-- The name that stands for the value of an option. -/
def valueName : Setting → String
  | logLevel => "LOG_LEVEL"
  | library => "PATH"
  | clientProcessId => "CLIENT_PROCESS_ID"

/-- An option as messages show it. -/
def display (s : Setting) : String :=
  "--" ++ s.name ++ " <" ++ s.valueName ++ ">"

/-- The option of a long name. -/
def ofName? (name : String) : Option Setting :=
  [logLevel, library, clientProcessId].find? (·.name = name)

end Setting

namespace Switch

/-- The long name of an option. -/
def name : Switch → String
  | noColor => "no-color"
  | noFileLogging => "no-file-logging"
  | help => "help"
  | version => "version"

/-- An option as messages show it. -/
def display (s : Switch) : String :=
  "--" ++ s.name

/-- The option of a long name. -/
def ofName? (name : String) : Option Switch :=
  [noColor, noFileLogging, help, version].find? (·.name = name)

/-- The option of a letter. -/
def ofLetter? : Char → Option Switch
  | 'h' => some help
  | 'V' => some version
  | _ => none

end Switch

/-! ## Errors -/

/-- The ways in which a text is no process identifier. -/
inductive ProcessIdError where
  | empty
  | invalidDigit
  | tooLarge
  | tooSmall
  | outOfRange (n : Int)
deriving DecidableEq, Repr

namespace ProcessIdError

/-- Why a text is no process identifier, in words. -/
def message : ProcessIdError → String
  | empty => "cannot parse integer from empty string"
  | invalidDigit => "invalid digit found in string"
  | tooLarge => "number too large to fit in target type"
  | tooSmall => "number too small to fit in target type"
  | outOfRange n => toString n ++ " is not in 0..=4294967295"

end ProcessIdError

/-- The reasons why a command line does not start the server. -/
inductive ArgumentError where
  | unknownArgument (argument : String)
  | missingValue (option : Setting)
  | unexpectedValue (option : Switch) (value : String)
  | repeatedSetting (option : Setting)
  | repeatedSwitch (option : Switch)
  | invalidProcessId (value : String) (cause : ProcessIdError)
  | helpWanted
  | versionWanted
deriving DecidableEq, Repr

/-- What the server can be told. -/
def helpText : String :=
  "LMNtal hover and completion language server\n"
    ++ "\n"
    ++ "Usage: lmntal-language-server [OPTIONS]\n"
    ++ "\n"
    ++ "Options:\n"
    ++ "      --log-level <LOG_LEVEL>\n"
    ++ "          Log filter for stderr (overrides RUST_LOG), e.g. \"debug\" or "
    ++ "\"lmntal_language_server=trace\"\n"
    ++ "      --no-color\n"
    ++ "          Disable ANSI colors in stderr output\n"
    ++ "      --no-file-logging\n"
    ++ "          Do not write a session log file to the user cache directory\n"
    ++ "      --library <PATH>\n"
    ++ "          JSON library file to use instead of the bundled library\n"
    ++ "      --client-process-id <CLIENT_PROCESS_ID>\n"
    ++ "          Process id of the editor that launched the server\n"
    ++ "  -h, --help\n"
    ++ "          Print help\n"
    ++ "  -V, --version\n"
    ++ "          Print version\n"

/-- The name and the version of the server. -/
def versionText : String :=
  serverName ++ " " ++ serverVersion ++ "\n"

namespace ArgumentError

/-- The characters of a text before its first empty line. -/
def firstParagraph : List Char → List Char
  | '\n' :: '\n' :: _ => []
  | c :: t => c :: firstParagraph t
  | [] => []

/-- A report, which ends at the first empty line. -/
def report (text : String) : String :=
  String.ofList (firstParagraph ("error: " ++ text).toList)

/-- What a user has written, as far as a terminal shows it, between quotation marks. -/
def shown (text : String) : String :=
  "'" ++ String.ofList (Text.visible text.toList) ++ "'"

/-- What the server prints instead of starting. -/
def message : ArgumentError → String
  | unknownArgument argument => report ("unexpected argument " ++ shown argument ++ " found")
  | missingValue option =>
      report ("a value is required for '" ++ option.display ++ "' but none was supplied")
  | unexpectedValue option value =>
      report ("unexpected value " ++ shown value ++ " for '" ++ option.display
        ++ "' found; no more were expected")
  | repeatedSetting option =>
      report ("the argument '" ++ option.display ++ "' cannot be used multiple times")
  | repeatedSwitch option =>
      report ("the argument '" ++ option.display ++ "' cannot be used multiple times")
  | invalidProcessId value cause =>
      report ("invalid value " ++ shown value ++ " for '" ++ Setting.clientProcessId.display
        ++ "': " ++ cause.message)
  | helpWanted => helpText
  | versionWanted => versionText

end ArgumentError
end LmntalServer
