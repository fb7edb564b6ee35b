import LmntalServer.CommandLine.Reader
import LmntalServer.CommandLine.Settings
import LmntalServer.Json.Reader
import LmntalServer.Library.Load
import LmntalServer.Rpc.Frame
import LmntalServer.Rpc.Server
import LmntalServer.SessionLog
import Std.Time.DateTime.Timestamp

/-!
# The program

Reads the command line, clears out old session logs, loads the library, and then serves one client
over the standard input and output.
-/

namespace LmntalServer

/-! ## Files -/

/-- The failure of a file by the error of the operating system. -/
def FileError.ofIO (e : IO.Error) : FileError :=
  match e with
  | .noFileOrDirectory .. => .notFound
  | .alreadyExists .. => .alreadyExists
  | .inappropriateType _ code words => ofCode code words
  | .invalidArgument _ code words => ofCode code words
  | .permissionDenied _ code words => ofCode code words
  | .resourceExhausted _ code words => ofCode code words
  | .otherError code words => ofCode code words
  | e => .other 5 (toString e)
where
  /-- The failure of an error number. -/
  ofCode (code : UInt32) (words : String) : FileError :=
    match code.toNat with
    | 17 => .alreadyExists
    | 20 => .notDirectory
    | 21 => .isDirectory
    | 36 => .nameTooLong
    | n => .other n words

/-- The bytes of a file. -/
def readFile (path : String) : IO (Except FileError ByteArray) := do
  if path.toList.contains '\x00' then return .error .nulInName
  try
    return .ok (← IO.FS.readBinFile path)
  catch e =>
    return .error (FileError.ofIO e)

/-! ## Session logs -/

/-- The directory of the session logs, if the environment names a cache directory. -/
def logDirectory? : IO (Option String) := do
  let cache ← IO.getEnv "XDG_CACHE_HOME"
  let home ← IO.getEnv "HOME"
  let base := cache.filter (·.startsWith "/") <|> (home.filter (· ≠ "")).map (· ++ "/.cache")
  return base.map (· ++ "/" ++ serverName)

/-- The time in nanoseconds since the beginning of 1970. -/
def nanoseconds (t : IO.FS.SystemTime) : Int :=
  t.sec * 1000000000 + t.nsec.toNat

/-- An entry of the log directory as it is found.  Whether it can be removed only shows when it is
removed. -/
def examine (e : IO.FS.DirEntry) : IO LogEntry := do
  let status ←
    try
      let m ← e.path.symlinkMetadata
      let kind : EntryKind :=
        match m.type with
        | .file => .file
        | .symlink => .link
        | _ => .directory
      pure (some ⟨kind, some (nanoseconds m.modified)⟩)
    catch _ => pure none
  return ⟨e.fileName.toUTF8.toList, status, true⟩

/-- The number of this process, as far as the system tells it. -/
def processNumber : IO Nat := do
  try
    let status ← IO.FS.readFile "/proc/self/stat"
    return natOfDigits (status.toList.takeWhile Char.isDigit)
  catch _ => return 0

/-- The log directory as it is found.  It is made if nothing stands at its place. -/
def findLogs (directory : String) : IO LogDirectory := do
  try
    IO.FS.createDirAll directory
  catch e =>
    if FileError.ofIO e = .alreadyExists then return .blocked
    throw e
  let base ← IO.FS.realPath directory
  return .entries (← (← base.readDir).toList.mapM examine)

/-- Removes an entry from the log directory. -/
def removeLog (directory : String) (e : LogEntry) : IO Unit := do
  let some name := e.text? | return
  let path := directory ++ "/" ++ name
  try
    IO.FS.removeFile path
  catch err =>
    IO.eprintln s!"Failed to remove old log file {path}: {err}"

/-- Begins a session that writes a log: removes what does not stay in the log directory, and begins
the log. -/
def beginLog (directory : String) : IO (Except FileError Unit) := do
  let found ← findLogs directory
  let now ← Std.Time.Timestamp.now
  let instant : Int := now.toNanosecondsSinceUnixEpoch.val
  match found.begin instant true with
  | .error e => return .error e
  | .ok (kept, isNew) =>
      (found.listing.filter fun e => !kept.contains e).forM (removeLog directory)
      if isNew then
        let name := sessionLogName (instant / 1000000000).toNat (← processNumber)
        let path := directory ++ "/" ++ name
        IO.FS.Handle.mk path .append >>= IO.FS.Handle.flush
        IO.eprintln s!"Logging to file: {path}"
      return .ok ()

/-! ## Messages -/

/-- Reads the header of a message: the length that it gives, or nothing at the end of the
input. -/
partial def readHeader (input : IO.FS.Stream) (length : Option Nat) : IO (Option Nat) := do
  let line ← input.getLine
  if line = "" then return none
  if line = "\n" ∨ line = "\r\n" then return some (length.getD 0)
  readHeader input (Frame.contentLength? line.toList <|> length)

/-- Reads a number of bytes, or less at the end of the input. -/
partial def readBytes (input : IO.FS.Stream) (n : Nat) (read : ByteArray) : IO ByteArray := do
  if n ≤ read.size then return read
  let more ← input.read (n - read.size).toUSize
  if more.isEmpty then return read
  readBytes input n (read ++ more)

/-- Sends a message. -/
def send (output : IO.FS.Stream) (v : Json) : IO Unit := do
  output.putStr (Frame.render v)
  output.flush

/-- The response to a message that is no JSON. -/
def parseErrorResponse : Json :=
  .object
    [("jsonrpc", .string "2.0"), ("id", .null),
      ("error", .object [("code", .ofInt (-32700)), ("message", .string "Parse error")])]

/-- Serves the messages of a client until it exits. -/
partial def serveClient (input output : IO.FS.Stream) (s : Server) : IO Unit := do
  let some length ← readHeader input none | return
  let bytes ← readBytes input length ByteArray.empty
  match Json.parse ((String.fromUTF8? bytes).getD "").toList with
  | .error _ =>
      send output parseErrorResponse
      serveClient input output s
  | .ok v =>
      let (s, reply) := s.receive (Message.ofJson v)
      match reply with
      | .exited => return
      | .answered response notifications =>
          notifications.forM (send output)
          if let some r := response then send output r.toJson
          if s.phase = .exited then return
          serveClient input output s

/-! ## Start -/

/-- Reports why the server does not start. -/
def fail (what why : String) : IO UInt32 := do
  IO.eprintln s!"Error: {what}\n\nCaused by:\n    {why}"
  return 1

/-- Starts the server as a command line says. -/
def startServer (a : Arguments) : IO UInt32 := do
  if !a.noFileLogging then
    let some directory ← logDirectory?
      | return ← fail "failed to initialize logging" "Unable to determine user cache directory"
    try
      if let .error e ← beginLog directory then
        return ← fail "failed to initialize logging" e.message
    catch e =>
      return ← fail "failed to initialize logging" (FileError.ofIO e).message
  let named ← IO.getEnv libraryVariable
  let settings := Settings.resolve a fun name => if name = libraryVariable then named else none
  let file ←
    match settings.libraryPath with
    | some path => readFile path
    | none => pure (.error .notFound)
  match Library.load (fun _ => file) settings.libraryPath with
  | .error e => fail "failed to load LMNtal library data" e.message
  | .ok library =>
      serveClient (← IO.getStdin) (← IO.getStdout) (Server.start library)
      return 0

end LmntalServer

open LmntalServer in
/-- Runs the server, or prints what the command line asks for. -/
def main (arguments : List String) : IO UInt32 := do
  match Arguments.read arguments with
  | .ok a => startServer a
  | .error e =>
      match e with
      | .helpWanted | .versionWanted =>
          IO.print e.message
          return 0
      | _ =>
          IO.eprintln (e.message ++ "\n\nFor more information, try '--help'.")
          return 2
