import LmntalServer.File.Error

/-!
# Session logs

Every session may write a log of its own.  Before it does, it removes the logs of old sessions from
the log directory: regular files with the name of a session log that were last modified more than
seven days ago.  An entry that cannot be examined or removed stays and hinders no other.

Main definitions:

* `LogEntry`: an entry of the log directory.
* `LogEntry.isExpired`: the entries to be removed.
* `cleanUp`: the log directory without them.
* `LogDirectory.begin`: what a session finds when it begins to log.
* `sessionLogName`: the name of a new session log.

Main results:

* `mem_cleanUp_iff`: which entries stay.
-/

namespace LmntalServer

/-- The kinds of entries of a directory. -/
inductive EntryKind where
  | file
  | directory
  | link
deriving DecidableEq, Repr

/-- What examining an entry tells: its kind, and the time of its last modification in nanoseconds,
if that is known. -/
structure EntryStatus where
  kind : EntryKind
  modified : Option Int
deriving DecidableEq, Repr

/-- An entry of the log directory: the bytes of its name, its status if it can be examined, and
whether it can be removed. -/
structure LogEntry where
  name : List UInt8
  status : Option EntryStatus
  isRemovable : Bool
deriving DecidableEq, Repr

/-- The time for which session logs are kept, in nanoseconds: seven days. -/
def retention : Int :=
  7 * 24 * 60 * 60 * 1000000000

/-- Whether a name is that of a session log. -/
def isSessionLog (name : String) : Bool :=
  name.startsWith "session-" && name.endsWith ".log"

namespace LogEntry

/-- The name as text, if it is text. -/
def text? (e : LogEntry) : Option String :=
  String.fromUTF8? ⟨e.name.toArray⟩

/-- Whether an entry is to be removed at some time. -/
def isExpired (now : Int) (e : LogEntry) : Bool :=
  e.text?.any isSessionLog &&
    e.status.any fun s => s.kind = .file && s.modified.any fun m => m ≤ now && retention < now - m

end LogEntry

/-- The log directory after the old session logs have been removed. -/
def cleanUp (now : Int) (entries : List LogEntry) : List LogEntry :=
  entries.filter fun e => !(e.isExpired now && e.isRemovable)

/-- An entry stays unless it is expired and can be removed. -/
theorem mem_cleanUp_iff {now : Int} {entries : List LogEntry} {e : LogEntry} :
    e ∈ cleanUp now entries ↔ e ∈ entries ∧ ¬(e.isExpired now = true ∧ e.isRemovable = true) := by
  cases h : e.isExpired now <;> simp [cleanUp, h]

/-- What stands at the place of the log directory: a directory, or a file that blocks it. -/
inductive LogDirectory where
  | entries (es : List LogEntry)
  | blocked
deriving DecidableEq, Repr

namespace LogDirectory

/-- The entries of the directory. -/
def listing : LogDirectory → List LogEntry
  | entries es => es
  | blocked => []

/-- The entries that stay when a session begins, and whether it writes a log.  Without a log
nothing is touched. -/
def begin (now : Int) (writesLog : Bool) : LogDirectory → Except FileError (List LogEntry × Bool)
  | entries es => .ok (if writesLog then (cleanUp now es, true) else (es, false))
  | blocked => if writesLog then .error .alreadyExists else .ok ([], false)

end LogDirectory

/-! ## New session logs -/

/-- A number with zeros in front up to a width. -/
def padded (width n : Nat) : String :=
  let digits := Nat.toDigits 10 n
  String.ofList (List.replicate (width - digits.length) '0' ++ digits)

/-- The year, the month and the day of a day counted from the first of January 1970.  Years are
counted from March, so that a leap day is the last of its year, in eras of 400 years. -/
def civilDate (day : Nat) : Nat × Nat × Nat :=
  let day := day + 719468
  let dayOfEra := day % 146097
  let yearOfEra := (dayOfEra - dayOfEra / 1460 + dayOfEra / 36524 - dayOfEra / 146096) / 365
  let dayOfYear := dayOfEra - (365 * yearOfEra + yearOfEra / 4 - yearOfEra / 100)
  let month := (5 * dayOfYear + 2) / 153
  let year := yearOfEra + 400 * (day / 146097)
  (if month < 10 then year else year + 1, if month < 10 then month + 3 else month - 9,
    dayOfYear - (153 * month + 2) / 5 + 1)

/-- The date and the time of day, in UTC, of a second counted from the beginning of 1970. -/
def timestamp (second : Nat) : String :=
  let (year, month, day) := civilDate (second / 86400)
  let time := second % 86400
  padded 4 year ++ padded 2 month ++ padded 2 day ++ "-"
    ++ padded 2 (time / 3600) ++ padded 2 (time / 60 % 60) ++ padded 2 (time % 60)

example : timestamp 951868799 = "20000229-235959" := by
  decide +kernel

/-- The name of a new session log, by the time and the process. -/
def sessionLogName (second process : Nat) : String :=
  "session-" ++ timestamp second ++ "-" ++ toString process ++ ".log"

end LmntalServer
