import ChatLobby.Hub.Drain
import ChatLobby.Server
import ChatLobby.Shell.Files
import Std.Async.TCP
import Std.Sync.Mutex

/-!
# The sockets of the real system

Every socket is read by a task of its own.  What comes goes into the server, one event at a time;
the server is then let get quiet, and what it has for its peers goes out.
-/

namespace ChatLobby.Shell

open Std.Async.TCP.Socket (Client)
open Std.Net (IPAddr IPv4Addr IPv6Addr)

/-- A listening socket of the real system. -/
abbrev Listener := Std.Async.TCP.Socket.Server

/-! ### Addresses -/

/-- The address as the system takes it. -/
def toSystem (address : SocketAddress) : Std.Net.SocketAddress :=
  match address.ip with
  | .v4 ip => .v4 { addr := IPv4Addr.ofParts ip.a ip.b ip.c ip.d, port := address.port }
  | .v6 ip _ =>
    let g (n : Nat) : UInt16 := ip.groups.getD n 0
    .v6 {
      addr := IPv6Addr.ofParts (g 0) (g 1) (g 2) (g 3) (g 4) (g 5) (g 6) (g 7)
      port := address.port }

/-- The address that the system gives. -/
def ofSystem : Std.Net.SocketAddress → SocketAddress
  | .v4 a =>
    let o := a.addr.octets
    { ip := .v4 ⟨o[0], o[1], o[2], o[3]⟩, port := a.port }
  | .v6 a => { ip := .v6 ⟨a.addr.segments.toList, a.addr.segments.length_toList⟩ 0, port := a.port }

/-! ### Serving -/

/-- A server with the sockets of its connections. -/
structure Running where
  server : Server
  sockets : List (ConnectionId × Client) := []

/-- How many steps connections are given at once. -/
def patience : Nat := 1000000

/-- Send what goes out over one socket. -/
def deliver (client : Client) (o : Outgoing) : IO Unit := do
  try
    if !o.data.isEmpty then discard (client.send ⟨o.data.toArray⟩).toIO
    if o.last then discard client.shutdown.toIO
  catch _ => return

/-- Let an event happen to the server, and send out what comes of it. -/
def happen {α : Type} (state : Std.Mutex Running) (event : Running → α × Running) : IO α :=
  state.atomically do
    let (answer, r) := event (← get)
    let server := r.server.settle patience
    let (outgoing, hub) := server.hub.drain
    for o in outgoing do
      if let some client := r.sockets.lookup o.connection then deliver client o
    let ended (i : ConnectionId) : Bool := outgoing.any fun o => o.last && o.connection = i
    set { r with
      server := { server with hub }
      sockets := r.sockets.filter fun (i, _) => !ended i }
    return answer

/-- Change one connection of the server. -/
def onConnection (i : ConnectionId) (f : Connection Session → Connection Session) (r : Running) :
    Unit × Running :=
  ((), { r with server := { r.server with hub := r.server.hub.modify i f } })

/-- How many bytes are read at a time. -/
def readSize : UInt64 := 65536

/-- Read from a socket until the peer ends its side. -/
partial def readAll (state : Std.Mutex Running) (i : ConnectionId) (client : Client) : IO Unit := do
  let came ← try
      match ← (client.recv? readSize).block with
      | some data => pure (some data.toList)
      | none => happen state (onConnection i (·.peerEnds .finished)); pure none
    catch _ => happen state (onConnection i (·.peerEnds .reset)); pure none
  if let some data := came then
    happen state (onConnection i (·.peerSends data))
    readAll state i client

/-- Apply socket options to an accepted socket, as far as the system takes them. -/
def configure (client : Client) (options : SocketOptions) : IO Unit := do
  try
    if options.noDelay then client.noDelay
    if let some k := options.keepalive then
      client.keepAlive true (.ofNat k.idle.toNat) (by exact Int.natCast_nonneg _)
  catch _ => return

/-- The server accepts a connection. -/
def takeIn (client : Client) (peer : SocketAddress) (r : Running) : Option ConnectionId × Running :=
  let (id?, server) := r.server.accept peer
  let sockets := match id? with
    | some i => (i, client) :: r.sockets
    | none => r.sockets
  (id?, { r with server, sockets })

/-- Accept one connection, and read from it in a task of its own. -/
def acceptOne (state : Std.Mutex Running) (listener : Listener) (options : SocketOptions) :
    IO Unit := do
  let client ← listener.accept.block
  configure client options
  let peer := ofSystem (← client.getPeerName)
  if let some i ← happen state (takeIn client peer) then
    discard <| IO.asTask (readAll state i client) .dedicated

/-- Accept connections until the socket fails for good.  Answers how it failed. -/
partial def acceptAll (state : Std.Mutex Running) (listener : Listener) (options : SocketOptions) :
    IO SystemError := do
  let failure ← try
      acceptOne state listener options
      pure none
    catch e => pure (some ((systemError? e).getD .interrupted))
  if let some cause := failure then
    match AcceptVerdict.ofError cause with
    | .giveUp => return cause
    | .passOver => pure ()
    | .retry => IO.sleep 50
  acceptAll state listener options

/-- Listen on an address. -/
def listenOn (address : SocketAddress) (options : SocketOptions) : IO (Listener × SocketAddress) := do
  let listener ← Std.Async.TCP.Socket.Server.mk
  listener.bind (toSystem address)
  listener.listen (UInt32.ofNat options.backlog.toInt.toNat)
  return (listener, { address with port := (ofSystem (← listener.getSockName)).port })

end ChatLobby.Shell
