import ChatLobby.Rehearsal.Single
import ChatLobby.Server

/-!
# Rehearsing a server

A server and its clients, step by step.  After every step the server does what it does by itself
until it is quiet; the outcome is what the clients received and what became of their sessions.
-/

namespace ChatLobby.Rehearsal.Serving

/-- A client of the server, with its session if it was accepted. -/
structure Client where
  session : Option ConnectionId
  /-- Whether the client ended its side. -/
  gone : Bool := false
  deriving DecidableEq, Repr

/-- A rehearsal of a server. -/
structure Stage where
  server : Server
  /-- The clients, in the order in which they connected. -/
  clients : List Client := []
  /-- Whether the server was shut down. -/
  shutDown : Bool := false

/-- What may happen. -/
inductive Step where
  /-- A client connects. -/
  | connect
  /-- A client sends packets and bytes after them, all at once. -/
  | send (client : Nat) (packets : List ClientPacket) (data : Bytes)
  /-- A client ends its side. -/
  | close (client : Nat)
  /-- A client breaks the stream off. -/
  | reset (client : Nat)
  /-- The server closes every session. -/
  | disconnectAll
  /-- The server is shut down. -/
  | shutdown
  deriving DecidableEq, Repr

/-- What a step answers. -/
inductive Answer where
  | nothing
  /-- The number of the client, or how many sessions were closed. -/
  | number (n : Nat)
  /-- The client is gone. -/
  | closed
  deriving DecidableEq, Repr

/-- What a client received that the server sent as one frame. -/
inductive Reading where
  | packet (packet : ServerPacket)
  /-- The bytes are no packet. -/
  | broken (message : String)
  deriving DecidableEq, Repr

/-- What can be seen after a step. -/
structure Outcome where
  answer : Answer
  /-- What the clients received in the step, by their numbers. -/
  received : List (Nat × List Reading)
  /-- The sessions that ended in the step, by the numbers of their clients. -/
  ended : List (Nat × DisconnectReason)
  /-- How many sessions are admitted. -/
  count : Nat
  /-- How many members the rooms have that are watched. -/
  rooms : List (String × Nat)
  /-- Whether the server accepts connections, once it was shut down. -/
  accepting : Option Bool

/-- The packets in bytes that the server sent. -/
def readings (data : Bytes) : List Reading :=
  ((Decoder.ofPolicy {}).scan data).frames.map fun f =>
    match f.tag? with
    | none => .broken (FrameError.missingTag f.length).message
    | some tag =>
      match ServerPacket.ofTagged tag f.payload with
      | .ok packet => .packet packet
      | .error e => .broken e.message

/-- The frames of packets, one after the other, without those that make none. -/
def encodeAll (packets : List ClientPacket) : Bytes :=
  packets.flatMap fun packet => (packet.encode {}).toOption.getD []

/-- The connection of a client. -/
def connectionOf (server : Server) (c : Client) : Option (Connection Session) :=
  c.session.bind server.hub.connection?

/-- Change the connection of a client. -/
def modifyClient (server : Server) (c : Client) (f : Connection Session → Connection Session) :
    Server :=
  match c.session with
  | some i => { server with hub := server.hub.modify i f }
  | none => server

namespace Stage

/-- Whether a client can send no more. -/
def isGone (s : Stage) (c : Client) : Bool :=
  c.gone || (connectionOf s.server c).any (·.socket.closed)

/-- A client ends its side in some way. -/
def leave (s : Stage) (client : Nat) (how : RemoteSide) : Stage :=
  match s.clients[client]? with
  | none => s
  | some c =>
    { s with
      server := modifyClient s.server c (·.peerEnds how)
      clients := s.clients.set client { c with gone := true } }

/-- Do one step, short of what then happens by itself.  Nothing can be rehearsed if the host lets
nobody connect. -/
def perform (host : Host) (s : Stage) : Step → Except SystemError (Answer × Stage)
  | .connect => do
    host.connect (loopback s.server.address.port)
    let (session, server) := s.server.accept (loopback Host.anyPort)
    return (.number s.clients.length, { s with server, clients := s.clients ++ [{ session }] })
  | .send client packets data =>
    .ok <|
      match s.clients[client]? with
      | none => (.closed, s)
      | some c =>
        if s.isGone c then (.closed, s)
        else
          (.nothing, { s with
            server := modifyClient s.server c (·.peerSends (encodeAll packets ++ data)) })
  | .close client => .ok (.nothing, s.leave client .finished)
  | .reset client => .ok (.nothing, s.leave client .reset)
  | .disconnectAll =>
    let (n, server) := s.server.disconnectAll
    .ok (.number n, { s with server })
  | .shutdown => .ok (.nothing, { s with server := s.server.shutdown.2, shutDown := true })

/-- Do one step, and let the server get quiet. -/
def step (host : Host) (watched : List String) (s : Stage) (step : Step) :
    Except SystemError (Outcome × Stage) := do
  let (answer, after) ← s.perform host step
  let after := { after with server := after.server.settle patience }
  let numbered := after.clients.zipIdx
  let received : Client × Nat → Option (Nat × List Reading) := fun (c, n) =>
    let delivered (server : Server) : Bytes :=
      (connectionOf server c).elim [] (·.socket.delivered)
    let fresh := readings ((delivered after.server).drop (delivered s.server).length)
    if fresh.isEmpty then none else some (n, fresh)
  let ended : Client × Nat → Option (Nat × DisconnectReason) := fun (c, n) =>
    let reason (server : Server) : Option DisconnectReason :=
      (connectionOf server c).bind (·.ended)
    if (reason s.server).isSome then none else (reason after.server).map (n, ·)
  return ({
    answer
    received := numbered.filterMap received
    ended := numbered.filterMap ended
    count := after.server.lobby.connectionCount
    rooms := watched.map fun room => (room, after.server.lobby.roomMembers room)
    accepting := if after.shutDown then some (after.server.acceptor = .running) else none }, after)

end Stage

/-- Do all steps. -/
def run (host : Host) (watched : List String) (s : Stage) (steps : List Step) :
    Except SystemError (List Outcome) :=
  (rehearse (Stage.step host watched) s steps).map (·.1)

end ChatLobby.Rehearsal.Serving
