import ChatLobby.Arguments.Parse
import ChatLobby.Log.Filter
import ChatLobby.Server
import ChatLobby.Settings.Store

/-!
# Starting the program

From arguments, environment and files to a listening server.  `prepare` settles everything that
comes before the network: the settings, the log filter and the log file.  `run` goes on to listen
and to serve until the user interrupts, and reports what a run leaves behind.
-/

namespace ChatLobby

/-- What the program finds in its environment. -/
structure Environment where
  /-- The user's home directory, if it was said. -/
  home : Option String := none
  /-- The home directory of the user's account. -/
  accountHome : Option String := none
  /-- Where the user keeps configuration, if it was said. -/
  configHome : Option String := none
  /-- The log filter that overrides the settings. -/
  logFilter : Option String := none
  deriving DecidableEq, Repr

namespace Environment

/-- The name of the program's directory among the user's configuration. -/
def programName : String := "nebula-server"

/-- The configuration directory of a user who did not name one.  Only an absolute path counts as
said. -/
def defaultDirectory (e : Environment) : Option Path :=
  let said := (e.configHome.map Path.mk).filter (·.absolute)
  let home := (e.home.filter (· ≠ "")).or e.accountHome
  let usual := home.map fun home => (Path.mk home).child ".config"
  (said.or usual).map (·.child programName)

end Environment

namespace Launch

/-- Everything that is settled before the server listens. -/
structure Prepared where
  /-- The settings in force. -/
  settings : Settings
  /-- What is logged. -/
  filter : LogFilter
  /-- The log file, if it could be created. -/
  logFile : Option Path
  /-- Messages for the user. -/
  complaints : List String
  /-- The files, with those that were written. -/
  files : FileTree

/-- The program stops before it listens. -/
structure Stopped where
  /-- What it exits with. -/
  exitCode : Nat
  /-- Messages for the user. -/
  complaints : List String
  /-- What is wrong with the arguments, if that is why. -/
  cause : Option ArgumentError := none
  deriving DecidableEq, Repr

/-- The log file of a configuration directory. -/
def logFileIn (directory : Path) : Path := (directory.child "logs").child LogFilter.fileName

/-- Create the empty log file of a configuration directory, if that is possible. -/
def createLogFile (files : FileTree) (directory : Path) : Option Path × FileTree :=
  match files.makeDirectories (directory.child "logs") with
  | .error _ => (none, files)
  | .ok files =>
    match files.write (logFileIn directory) [] with
    | .error _ => (none, files)
    | .ok files => (some (logFileIn directory), files)

/-- The settings of a configuration directory; if they cannot be loaded, the defaults and a
complaint. -/
def settingsOrDefault (files : FileTree) (directory : Path) : Settings × List String × FileTree :=
  match Settings.loadOrCreate files directory with
  | .ok (settings, files) => (settings, [], files)
  | .error cause => ({}, [s!"Failed to load config: {cause.message}, using defaults"], files)

/-- What is said about an invalid directive. -/
def directiveComplaint (text : String) (cause : DirectiveError) : String :=
  "ignoring \x60" ++ text ++ "\x60: " ++ cause.message

/-- Read the arguments, and find the configuration directory. -/
def locate (env : Environment) (args : List String) : Except Stopped (Arguments × Path) :=
  match Arguments.parse args with
  | .error cause => .error { exitCode := cause.exitCode, complaints := [], cause := some cause }
  | .ok args =>
    match (args.directory.map Path.mk).or env.defaultDirectory with
    | some directory => .ok (args, directory)
    | none =>
      .error {
        exitCode := 1
        complaints := ["Error: \"could not resolve a config directory; pass --config\""] }

/-- Settle everything that comes before the network. -/
def prepare (env : Environment) (files : FileTree) (args : Arguments) (directory : Path) :
    Prepared :=
  let (settings, complaints, files) := settingsOrDefault files directory
  let settings := settings.override args
  let (logFile, files) := createLogFile files directory
  { settings
    filter := LogFilter.choose env.logFilter settings.filterText
    logFile
    complaints :=
      complaints
        ++ (LogFilter.complaints env.logFilter settings.filterText).map fun (text, cause) =>
          directiveComplaint text cause
    files }

/-- What a run leaves behind. -/
structure Report where
  /-- What the program exits with. -/
  exitCode : Nat
  /-- Whether it served until the user interrupted. -/
  served : Bool
  /-- Messages for the user. -/
  complaints : List String
  /-- The files. -/
  files : FileTree
  /-- What the log file holds. -/
  logged : List LogRecord := []

/-- The lines that the user reads. -/
def Report.lines (r : Report) : List String :=
  r.complaints.flatMap fun message => (Text.lines message.toList).map String.ofList

/-- The part of the program that starts and stops. -/
def mainTarget : String := "nebula_server"

/-- The part of the program that accepts connections. -/
def acceptorTarget : String := "nebula_net::acceptor"

/-- The part of the program that runs the server. -/
def serverTarget : String := "nebula_server::server"

/-- What is logged when the server begins to listen. -/
def openingRecords (address : SocketAddress) (settings : Settings) : List LogRecord :=
  [ { level := .info, target := mainTarget
      message :=
        s!"Nebula server listening on {address.text} (max {settings.server.maxConnections} connections)" },
    { level := .info, target := acceptorTarget
      message := s!"Accepting connections on Ok({address.text})" }]

/-- What is logged when the user interrupts. -/
def closingRecords (closed : Nat) : List LogRecord :=
  [ { level := .info, target := mainTarget, message := "Shutting down" },
    { level := .info, target := serverTarget, message := s!"Closed {closed} sessions" }]

/-- What the user reads when the server cannot be started. -/
def failureLine (cause : ServerError) : String := s!"Error: {cause.describe}"

/-- Run the program on a host until the user interrupts, without anyone connecting. -/
def run (host : Host) (env : Environment) (files : FileTree) (args : List String) : Report :=
  match locate env args with
  | .error stopped =>
    { exitCode := stopped.exitCode, served := false, complaints := stopped.complaints, files }
  | .ok (args, directory) =>
    let p := prepare env files args directory
    match Server.bind host p.settings with
    | .error cause =>
      { exitCode := 1, served := false, complaints := p.complaints ++ [failureLine cause]
        files := p.files }
    | .ok server =>
      let records := openingRecords server.address p.settings ++ closingRecords server.shutdown.1
      { exitCode := 0, served := true, complaints := p.complaints, files := p.files
        logged := if p.logFile.isSome then records.filter p.filter.lets else [] }

end Launch

end ChatLobby
