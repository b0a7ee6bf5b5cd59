import ChatLobby.Shell.Sockets
import Std.Async.Signal

/-!
# The program

Reads arguments, environment and settings, listens, and serves until the user interrupts.
-/

namespace ChatLobby.Shell

/-- What the user reads when asking for help. -/
def helpText : String :=
  "\n".intercalate [
    "Nebula lobby server",
    "",
    "Usage: nebula-server [OPTIONS]",
    "",
    "Options:",
    "      --bind <BIND>                        Address to bind (without port)",
    "      --port <PORT>                        Port to listen on",
    "      --max-connections <MAX_CONNECTIONS>  Maximum simultaneous connections",
    "      --max-frame <MAX_FRAME>              Largest accepted frame in bytes",
    "      --log-level <LOG_LEVEL>              Log level (error, warn, info, debug, trace) or a full filter string",
    "      --config <CONFIG>                    Path to config directory (overrides default location)",
    "  -h, --help                               Print help"]

/-- What the user reads about wrong arguments. -/
def argumentText (cause : ArgumentError) : String :=
  let problem := match cause with
    | .unknownArgument => "unexpected argument found"
    | .missingValue => "a value is required"
    | .badValue => "invalid value"
    | .repeatedOption => "the argument cannot be used multiple times"
    | .surplusValue => "unexpected value found"
    | .helpRequested => ""
  "error: " ++ problem ++ "\n\nUsage: nebula-server [OPTIONS]\n\nFor more information, try '--help'."

/-- The environment of the process. -/
def environment : IO Environment := do
  return {
    home := ← IO.getEnv "HOME"
    configHome := ← IO.getEnv "XDG_CONFIG_HOME"
    logFilter := ← IO.getEnv "RUST_LOG" }

/-- Where records go. -/
structure Journal where
  /-- Which records are logged. -/
  filter : LogFilter
  /-- The log file, if there is one. -/
  file : Option IO.FS.Handle
  /-- When the program began, in nanoseconds. -/
  start : Nat

/-- Log records. -/
def Journal.write (j : Journal) (records : List LogRecord) : IO Unit := do
  let stdout ← IO.getStdout
  for r in records.filter j.filter.lets do
    let micros := ((← IO.monoNanosNow) - j.start) / 1000
    let fraction := toString (1000000 + micros % 1000000)
    let time := s!"{micros / 1000000}.{fraction.drop 1}s"
    stdout.putStrLn (r.consoleLine time)
    if let some file := j.file then file.putStrLn (r.fileLine time)
  stdout.flush
  if let some file := j.file then file.flush

/-- Write what the launch put into the tree.  Answers whether the log file can be used. -/
def storeAll (before : FileTree) (p : Launch.Prepared) : IO Bool := do
  let mut complete := true
  for (place, entry) in before.newEntries p.files do
    try store place entry
    catch e =>
      complete := false
      IO.eprintln s!"Failed to write {placeText place}: {errorText e}"
  return complete && p.logFile.isSome

/-- Open the log file. -/
def openJournal (files : FileTree) (p : Launch.Prepared) (usable : Bool) : IO Journal := do
  let start ← IO.monoNanosNow
  let place? := (p.logFile.map files.locate).bind Except.toOption
  let file ← match place? with
    | some place =>
      if usable then pure (some (← IO.FS.Handle.mk (placeText place) .append)) else pure none
    | none => pure none
  return { filter := p.filter, file, start }

/-- Serve until the user interrupts or the socket fails for good.  Answers what to exit with. -/
def serve (j : Journal) (settings : Settings) (server : Server) (listener : Listener) :
    IO UInt32 := do
  let state ← Std.Mutex.new { server : Running }
  j.write (Launch.openingRecords server.address settings)
  let signal ← Std.Async.Signal.Waiter.mk .sigint false
  let interrupted ← IO.asTask (do discard (← signal.wait).block; return none) .dedicated
  let failed ← IO.asTask (return some (← acceptAll state listener settings.socketOptions)) .dedicated
  match ← IO.ofExcept (← IO.waitAny [interrupted, failed]) with
  | some cause =>
    let failure : AcceptError := .fatal cause
    j.write [{
      level := .error, target := Launch.mainTarget, message := s!"Server stopped: {failure.message}" }]
    IO.eprintln s!"Error: {failure.describe}"
    return 1
  | none =>
    let closed ← happen state fun r =>
      let (closed, server) := r.server.shutdown
      (closed, { r with server })
    j.write (Launch.closingRecords closed)
    return 0

/-- Run the program once the arguments are known.  Answers what to exit with. -/
def start (env : Environment) (args : Arguments) (directory : Path) : IO UInt32 := do
  let before ← snapshot directory
  let p := Launch.prepare env before args directory
  let usable ← storeAll before p
  for line in p.complaints do IO.eprintln line
  let j ← openJournal p.files p usable
  let listening ← match p.settings.server.socketAddress with
    | .error _ => pure none
    | .ok address =>
      try
        pure (some (Except.ok (← listenOn address p.settings.socketOptions)))
      catch e => pure (some (.error ((systemError? e).getD .addressNotAvailable)))
  let host : Host := {
    listen := fun _ => match listening with
      | some (.ok (_, bound)) => .ok bound
      | some (.error cause) => .error cause
      | none => .error .addressNotAvailable
    connect := fun _ => .error .networkUnreachable }
  match Server.bind host p.settings, listening with
  | .ok server, some (.ok (listener, _)) => serve j p.settings server listener
  | .error cause, _ =>
    IO.eprintln (Launch.failureLine cause)
    return 1
  | _, _ => return 1

/-- Run the program.  Answers what to exit with. -/
def run (args : List String) : IO UInt32 := do
  let env ← environment
  match Launch.locate env args with
  | .ok (args, directory) => start env args directory
  | .error stopped =>
    for line in stopped.complaints do IO.eprintln line
    match stopped.cause with
    | some .helpRequested => IO.println helpText
    | some cause => IO.eprintln (argumentText cause)
    | none => pure ()
    return UInt32.ofNat stopped.exitCode

end ChatLobby.Shell

/-- The program. -/
def main (args : List String) : IO UInt32 := ChatLobby.Shell.run args
