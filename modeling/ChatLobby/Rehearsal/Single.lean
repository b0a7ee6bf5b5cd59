import ChatLobby.Host
import ChatLobby.Rehearsal.Script

/-!
# Rehearsing one connection

One connection and its peer, step by step.  After every step the connection does what it does by
itself until it is quiet, and what can be seen then is the outcome of the step.
-/

namespace ChatLobby.Rehearsal

/-- An address of this host that a peer has. -/
def loopback (port : UInt16) : SocketAddress := { ip := .v4 ⟨127, 0, 0, 1⟩, port }

namespace Single

/-- What may happen to a connection and its peer. -/
inductive Step where
  /-- Someone connects, and the connection takes over the accepted socket. -/
  | attach
  /-- The connection connects, perhaps to where nobody listens. -/
  | connect (refused : Bool)
  /-- The peer sends. -/
  | write (data : Bytes)
  /-- Payloads are sent. -/
  | send (payloads : List Bytes)
  /-- The end is asked for, so many times. -/
  | disconnect (times : Nat)
  /-- The peer ends its side. -/
  | close
  /-- The peer breaks the stream off. -/
  | reset
  /-- The connection is printed. -/
  | describe
  deriving DecidableEq, Repr

/-- What a step answers. -/
inductive Answer where
  /-- Nothing. -/
  | nothing
  /-- The connection was started, or not. -/
  | started (outcome : Except ConnectionError Unit)
  /-- The peer could send, or not. -/
  | wrote (done : Bool)
  /-- Which payloads were accepted, and how many then waited. -/
  | sent (accepted : List Bool) (waiting : Nat)
  /-- Which requests decided the end, and where the connection stood then. -/
  | disconnected (decided : List Bool) (phase : Phase)
  /-- The connection as it is printed. -/
  | described (text : String)

/-- What can be seen after a step. -/
structure Outcome where
  answer : Answer
  /-- What the handler wrote down in the step. -/
  events : List Event
  /-- Where the connection stands. -/
  phase : Phase
  /-- How many payloads wait. -/
  waiting : Nat
  /-- Whether the connection knows its peer. -/
  peerKnown : Bool
  /-- What the peer received in the step. -/
  got : Bytes
  /-- Whether the peer has seen the end of the stream. -/
  sawEnd : Bool

/-- A rehearsal of one connection. -/
structure Stage where
  /-- The connection. -/
  hub : Hub Unit Notes
  /-- Whether the peer has seen the end of the stream. -/
  sawEnd : Bool := false

/-- The only connection. -/
def only : ConnectionId := ⟨0⟩

/-- The beginning. -/
def Stage.ofSizing (sizing : ReceiveSizing) : Stage where
  hub := ((⟨[], ()⟩ : Hub Unit Notes).create sizing {}).2

/-- Start the connection, if the host lets it be reached. -/
def startOn (hub : Hub Unit Notes) : Except ConnectionError Unit × Hub Unit Notes :=
  match hub.start only (loopback Host.anyPort) with
  | .ok hub => (.ok (), hub)
  | .error e => (.error e, hub)

/-- Do the same `times` times. -/
def repeatAct (act : Action Bool) : (times : Nat) → Action (List Bool)
  | 0 => pure []
  | times + 1 => do return (← act) :: (← repeatAct act times)

/-- Send payloads one after the other. -/
def sendAll : List Bytes → Action (List Bool)
  | [] => pure []
  | data :: rest => do return (← Action.sendTo only data) :: (← sendAll rest)

/-- Do one step, short of what then happens by itself.  Nothing can be rehearsed if the host lets
nobody connect. -/
def perform (host : Host) (hub : Hub Unit Notes) : Step → Except SystemError (Answer × Hub Unit Notes)
  | .attach => do
    host.connect (loopback Host.anyPort)
    let (outcome, hub) := startOn hub
    return (.started outcome, hub)
  | .connect refused =>
    match host.connect (loopback Host.anyPort) with
    | .error cause => .ok (.started (.error (.io (.system cause))), hub)
    | .ok () =>
      if refused then .ok (.started (.error (.io (.system .connectionRefused))), hub)
      else
        let (outcome, hub) := startOn hub
        .ok (.started outcome, hub)
  | .write data =>
    let live := (hub.connection? only).any fun c => c.hasPeer && !c.socket.closed
    .ok (.wrote live, if live then hub.modify only (·.peerSends data) else hub)
  | .send payloads =>
    let (accepted, hub) := hub.act (sendAll payloads)
    .ok (.sent accepted ((hub.connection? only).elim 0 (·.pendingSends)), hub)
  | .disconnect times =>
    let (decided, hub) := hub.act (repeatAct (Action.close only) times)
    .ok (.disconnected decided ((hub.phase? only).getD .pending), hub)
  | .close => .ok (.nothing, hub.modify only (·.peerEnds .finished))
  | .reset => .ok (.nothing, hub.modify only (·.peerEnds .reset))
  | .describe => .ok (.described ((hub.connection? only).elim "" (·.describe only)), hub)

/-- Do one step, and let the connection get quiet. -/
def Stage.step (host : Host) (handler : Handler Unit Notes) (s : Stage) (step : Step) :
    Except SystemError (Outcome × Stage) := do
  let (answer, hub) ← perform host s.hub step
  let hub := hub.settle handler patience
  let deliveredBefore := (s.hub.connection? only).elim 0 (·.socket.delivered.length)
  let eventsBefore := (s.hub.connection? only).elim 0 (·.session.events.length)
  let some c := hub.connection? only | throw .notFound
  let sawEnd := s.sawEnd || (c.socket.closed && c.socket.remote ≠ .reset)
  let outcome : Outcome := {
    answer
    events := c.session.events.drop eventsBefore
    phase := c.phase
    waiting := c.pendingSends
    peerKnown := c.peer.isSome
    got := c.socket.delivered.drop deliveredBefore
    sawEnd }
  return (outcome, { hub, sawEnd })

/-- Do all steps. -/
def run (host : Host) (handler : Handler Unit Notes) (s : Stage) (steps : List Step) :
    Except SystemError (List Outcome) :=
  (rehearse (Stage.step host handler) s steps).map (·.1)

end Single

end ChatLobby.Rehearsal
