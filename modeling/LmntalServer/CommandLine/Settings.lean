import LmntalServer.CommandLine.Basic

/-!
# Settings

The command line comes before the environment.

Main definitions:

* `Settings`: what a session needs to know.
* `Settings.resolve`: the settings of some arguments in an environment.

Main results:

* `Settings.resolve_eq_of_env`: only one variable counts.
-/

namespace LmntalServer

/-- The environment variable that names a library file. -/
def libraryVariable : String :=
  "LMNTAL_LIBRARY_PATH"

/-- The path of the library file, and the process identifier of the client. -/
structure Settings where
  libraryPath : Option String
  clientProcessId : Option UInt32
deriving DecidableEq, Repr

namespace Settings

/-- The settings of some arguments in an environment.  An empty variable is as good as none. -/
def resolve (a : Arguments) (env : String → Option String) : Settings where
  libraryPath := a.library <|> (env libraryVariable).filter (· ≠ "")
  clientProcessId := a.clientProcessId

/-- A path on the command line comes before the environment. -/
theorem libraryPath_resolve_of_some {a : Arguments} {path : String} (h : a.library = some path)
    (env : String → Option String) : (resolve a env).libraryPath = some path := by
  simp [resolve, h]

/-- Without a path on the command line the variable counts, if it is not empty. -/
theorem libraryPath_resolve_of_none {a : Arguments} {path : String} (h : a.library = none)
    (env : String → Option String) :
    (resolve a env).libraryPath = some path ↔ env libraryVariable = some path ∧ path ≠ "" := by
  simp [resolve, h]

/-- No other variable counts. -/
theorem resolve_eq_of_env {env env' : String → Option String}
    (h : env libraryVariable = env' libraryVariable) (a : Arguments) :
    resolve a env = resolve a env' := by
  simp [resolve, h]

end Settings
end LmntalServer
