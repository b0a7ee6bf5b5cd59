import ChatLobby.Endpoint.Parse
import ChatLobby.IoError
import ChatLobby.Text.Quoted

/-!
# Settings

What a server can be told: where it listens and how many sessions it admits, how it sizes its
buffers and frames, the options of its sockets, and what it logs.  Every setting has a default.
-/

namespace ChatLobby

/-- Where the server listens, and how many sessions it admits. -/
structure ServerSettings where
  /-- The address to listen on, without the port. -/
  bindAddress : String := "0.0.0.0"
  /-- The port to listen on. -/
  port : UInt16 := 7777
  /-- How many sessions are admitted at once. -/
  maxConnections : UInt64 := 1024
  deriving DecidableEq, Repr

/-- The sizes of buffers and frames. -/
structure TransportSettings where
  /-- How many bytes a connection can receive before its storage grows. -/
  recvBufferSize : UInt64 := 65536
  /-- How much free space there is before each receive; 0 counts as 1. -/
  minRecvSpace : UInt64 := 4096
  /-- The size of the chunks that packets are written into. -/
  sendChunkSize : UInt64 := 65536
  /-- The largest acceptable frame, its header included. -/
  maxFrame : UInt64 := 65536
  deriving DecidableEq, Repr

/-- Options of the listening socket and the accepted ones. -/
structure SocketSettings where
  /-- Send small packets without delay. -/
  noDelay : Bool := true
  /-- Probe idle connections. -/
  keepalive : Bool := false
  /-- Idle seconds before the first probe. -/
  keepaliveIdleSecs : UInt64 := 60
  /-- Seconds between probes. -/
  keepaliveIntervalSecs : UInt64 := 10
  /-- Unanswered probes before the connection is dropped. -/
  keepaliveRetries : UInt32 := 3
  /-- How many connections may wait to be accepted. -/
  backlog : Int32 := 128
  deriving DecidableEq, Repr

/-- What is logged. -/
structure DebugSettings where
  /-- The log filter. -/
  logLevel : String := "info"
  deriving DecidableEq, Repr

/-- Everything a server can be told. -/
structure Settings where
  server : ServerSettings := {}
  transport : TransportSettings := {}
  socket : SocketSettings := {}
  debug : DebugSettings := {}
  deriving DecidableEq, Repr

/-- Why settings could not be loaded, saved or used. -/
inductive SettingsError where
  /-- The file could not be read. -/
  | read (cause : IoError)
  /-- The directory or the file could not be written. -/
  | write (cause : IoError)
  /-- The file does not hold settings. -/
  | parse
  /-- The address and port to listen on are no socket address. -/
  | invalidEndpoint (endpoint : String)
  deriving DecidableEq, Repr

/-- The name of the kind of error. -/
def SettingsError.kind : SettingsError → String
  | read _ => "ReadError"
  | write _ => "WriteError"
  | parse => "ParseError"
  | invalidEndpoint _ => "InvalidEndpoint"

/-- The text of the error.  What exactly is wrong with a file is left open: a star stands for
it. -/
def SettingsError.message : SettingsError → String
  | read cause => s!"failed to read config: {cause.message}"
  | write cause => s!"failed to write config: {cause.message}"
  | parse => "failed to parse config: *"
  | invalidEndpoint endpoint => s!"invalid listen endpoint {Text.quoted .message endpoint}"

/-- The structured form of the error. -/
def SettingsError.describe : SettingsError → String
  | e@(read cause) | e@(write cause) => s!"{e.kind}({cause.describe})"
  | e@parse => s!"{e.kind}(*)"
  | e@(invalidEndpoint endpoint) => s!"{e.kind}({Text.quoted .message endpoint})"

namespace ServerSettings

/-- Address and port as one text; an address with colons is put in brackets. -/
def endpoint (s : ServerSettings) : String :=
  if s.bindAddress.toList.contains ':' then s!"[{s.bindAddress}]:{s.port}"
  else s!"{s.bindAddress}:{s.port}"

/-- The socket address that the endpoint denotes. -/
def socketAddress (s : ServerSettings) : Except SettingsError SocketAddress :=
  match SocketAddress.ofText? s.endpoint with
  | some address => .ok address
  | none => .error (.invalidEndpoint s.endpoint)

end ServerSettings

end ChatLobby
