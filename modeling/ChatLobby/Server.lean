import ChatLobby.Acceptor
import ChatLobby.Lobby
import ChatLobby.SocketOptions

/-!
# The server

A server is a lobby behind a listening socket: every accepted connection becomes a session of the
lobby, until the server is shut down.
-/

namespace ChatLobby

/-- Why a server cannot be started. -/
inductive ServerError where
  /-- The settings cannot be used. -/
  | settings (cause : SettingsError)
  /-- The address cannot be listened on. -/
  | accept (cause : AcceptError)
  deriving DecidableEq, Repr

namespace ServerError

/-- The text of the error. -/
def message : ServerError → String
  | settings cause => cause.message
  | accept cause => cause.message

/-- The structured form of the error. -/
def describe : ServerError → String
  | settings cause => s!"Config({cause.describe})"
  | accept cause => s!"Accept({cause.describe})"

end ServerError

/-- A listening server. -/
structure Server where
  /-- The address it listens on. -/
  address : SocketAddress
  /-- How its connections receive. -/
  sizing : ReceiveSizing
  /-- Its connections, and the lobby they are in. -/
  hub : Hub Lobby Session
  /-- Whether it accepts connections. -/
  acceptor : AcceptorState := .running

namespace Server

/-- Listen where settings say, with an empty lobby. -/
def bind (host : Host) (s : Settings) : Except ServerError Server := do
  let address ← s.server.socketAddress.mapError .settings
  let bound ← (host.bind address).mapError .accept
  return {
    address := bound
    sizing := s.receiveSizing
    hub := { shared := .ofCapacity s.server.maxConnections.toNat s.framePolicy } }

/-- The lobby behind the server. -/
def lobby (s : Server) : Lobby := s.hub.shared

/-- What its connections tell the lobby. -/
def handler (s : Server) : Handler Lobby Session := Lobby.handler s.lobby.policy

/-- Accept a connection from `peer`.  Nobody is accepted once the acceptor has stopped. -/
def accept (s : Server) (peer : SocketAddress) : Option ConnectionId × Server :=
  match s.acceptor with
  | .running =>
    let (i, hub) := s.hub.create s.sizing {}
    match hub.start i peer with
    | .ok hub => (some i, { s with hub })
    | .error _ => (none, { s with hub })
  | _ => (none, s)

/-- Close every session.  Answers how many that ended. -/
def disconnectAll (s : Server) : Nat × Server :=
  let (count, hub) := s.hub.act s.lobby.disconnectAll
  (count, { s with hub })

/-- Stop accepting, and close every session. -/
def shutdown (s : Server) : Nat × Server := { s with acceptor := s.acceptor.stop }.disconnectAll

/-- Let connections do what they do by themselves, for at most `fuel` steps. -/
def settle (fuel : Nat) (s : Server) : Server := { s with hub := s.hub.settle s.handler fuel }

end Server

end ChatLobby
