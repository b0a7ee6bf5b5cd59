import ChatLobby.Connection.Sender
import ChatLobby.ConnectionError
import ChatLobby.Endpoint.Address

/-!
# Connections

A connection is pending until a socket is attached, connected while it receives and sends,
disconnecting once its end is decided, and disconnected when its handler was told.

```
pending ──start──▶ connected ──disconnect, failure, end of stream──▶ disconnecting ──▶ disconnected
   └───────────────────────────disconnect before start─────────────────────────────────────▲
```

This module holds the connection as data, and the three operations that anyone may call on it:
`start`, `send` and `disconnect`.  What happens by itself is in `Hub.Advance`.

* `send_of_ne`, `disconnect_of_ending`: once its end is decided a connection takes no more.
-/

namespace ChatLobby

/-- Identifies a connection within a process. -/
structure ConnectionId where
  /-- How many connections there were before. -/
  index : Nat
  deriving DecidableEq, Repr

namespace ConnectionId

/-- The number of the connection; the first is 1. -/
def number (i : ConnectionId) : Nat := i.index + 1

/-- The first `n` connections of a process. -/
def firstIds (n : Nat) : List ConnectionId := (List.range n).map ConnectionId.mk

instance : LT ConnectionId := ⟨fun i j => i.number < j.number⟩

instance (i j : ConnectionId) : Decidable (i < j) :=
  inferInstanceAs (Decidable (i.number < j.number))

/-- The identifier as a program prints it. -/
def describe (i : ConnectionId) : String := s!"ConnectionId({i.number})"

end ConnectionId

/-- Where a connection stands. -/
inductive Phase where
  /-- No socket was attached yet. -/
  | pending
  /-- A socket is attached, and sends are accepted. -/
  | connected
  /-- The end is decided. -/
  | disconnecting
  /-- The handler was told of the end. -/
  | disconnected
  deriving DecidableEq, Repr

/-- The name of the phase. -/
def Phase.name : Phase → String
  | pending => "Pending"
  | connected => "Connected"
  | disconnecting => "Disconnecting"
  | disconnected => "Disconnected"

/-- Why a connection ended. -/
inductive DisconnectReason where
  /-- Someone here asked for it. -/
  | requested
  /-- The peer closed its side of the stream. -/
  | peerClosed
  /-- Something failed. -/
  | failed (text : String)
  deriving DecidableEq, Repr

/-- The reason when a connection fails with `cause`. -/
def DisconnectReason.ofError (cause : ConnectionError) : DisconnectReason := failed cause.message

/-- How much storage a connection has for what it receives. -/
structure ReceiveSizing where
  /-- The initial capacity of the receive buffer. -/
  bufferSize : Nat := 64 * 1024
  /-- The free space before each receive; 0 counts as 1. -/
  minSpace : Nat := 4 * 1024
  deriving DecidableEq, Repr

/-- What the peer did to its side of the stream. -/
inductive RemoteSide where
  /-- The peer may still send. -/
  | open
  /-- The peer sent everything it had to send. -/
  | finished
  /-- The peer broke the stream off. -/
  | reset
  deriving DecidableEq, Repr

/-- The stream between a connection and its peer. -/
structure Socket where
  /-- What the peer sent and the connection did not read yet. -/
  inbound : Bytes := []
  /-- What became of the peer's side. -/
  remote : RemoteSide := .open
  /-- What the peer received. -/
  delivered : Bytes := []
  /-- Whether this side of the stream is closed, so that the peer sees its end. -/
  closed : Bool := false
  deriving DecidableEq, Repr

/-- A connection, with what its handler keeps for it. -/
structure Connection (τ : Type) where
  /-- How it receives. -/
  sizing : ReceiveSizing := {}
  /-- Where it stands. -/
  phase : Phase := .pending
  /-- The phases that it entered since it is pending, in order. -/
  trail : List Phase := []
  /-- The address of the peer, once started. -/
  peer : Option SocketAddress := none
  /-- Whether the handler was told of the beginning. -/
  greeted : Bool := false
  /-- The stream, once started. -/
  socket : Socket := {}
  /-- Storage for received bytes that the handler has not used up; there is none before the
  start. -/
  cursor : Cursor := .ofCapacity 0
  /-- Payloads that were accepted for sending and not taken by the sending side yet. -/
  queue : List Bytes := []
  /-- The side of it that writes what was queued. -/
  sender : Sender := {}
  /-- Every payload that was accepted for sending. -/
  accepted : List Bytes := []
  /-- Why the connection ended, once its handler was told. -/
  ended : Option DisconnectReason := none
  /-- What the handler keeps for this connection. -/
  session : τ

namespace Connection

variable {τ : Type}

/-- Whether sends are accepted. -/
def isConnected (c : Connection τ) : Bool := c.phase = .connected

/-- How many payloads wait for the sending side. -/
def pendingSends (c : Connection τ) : Nat := c.queue.length

/-- Go on to a phase. -/
def enter (c : Connection τ) (phase : Phase) : Connection τ :=
  { c with phase, trail := c.trail ++ [phase] }

/-- Attach a socket whose other end is at `peer`. -/
def start (c : Connection τ) (peer : SocketAddress) : Except ConnectionError (Connection τ) :=
  match c.phase with
  | .pending =>
    .ok { c.enter .connected with
      peer := some peer
      cursor := .ofCapacity c.sizing.bufferSize }
  | _ => .error .alreadyStarted

/-- Queue a payload, and see to it that the sending side looks at the queue.  Answers whether the
payload was accepted; an empty one is accepted and not queued. -/
def send (c : Connection τ) (data : Bytes) : Bool × Connection τ :=
  match c.phase with
  | .connected =>
    let c := { c with accepted := c.accepted ++ [data] }
    (true,
      if data.isEmpty then c
      else { c with queue := c.queue ++ [data], sender := c.sender.wake })
  | _ => (false, c)

/-- Ask for the end.  Answers whether that decided it; a pending connection has ended at once. -/
def disconnect (c : Connection τ) : Bool × Connection τ :=
  match c.phase with
  | .pending => (true, c.enter .disconnected)
  | .connected => (true, c.enter .disconnecting)
  | .disconnecting | .disconnected => (false, c)

/-- Decide the end, if that was not decided before. -/
def claimEnd (c : Connection τ) : Connection τ :=
  if c.isConnected then c.enter .disconnecting else c

/-- Decide the end, discard what was not written, and close the stream. -/
def shut (c : Connection τ) : Connection τ :=
  { c.claimEnd with
    queue := []
    sender := c.sender.stop
    socket := { c.socket with closed := true } }

/-- The connection when its handler was told of the end: the receive buffer is given up. -/
def finish (reason : DisconnectReason) (c : Connection τ) : Connection τ :=
  { c.enter .disconnected with ended := some reason, cursor := .ofCapacity 0 }

/-- The connection as a program prints it. -/
def describe (c : Connection τ) (i : ConnectionId) : String :=
  let peer := match c.peer with
    | some address => s!"Some({address.text})"
    | none => "None"
  "Connection \x7b id: " ++ i.describe ++ ", state: " ++ c.phase.name ++ ", peer: " ++ peer
    ++ ", .. \x7d"

theorem send_of_ne {c : Connection τ} (h : c.phase ≠ .connected) (data : Bytes) :
    c.send data = (false, c) := by
  unfold send
  split
  · contradiction
  · rfl

theorem disconnect_of_ending {c : Connection τ}
    (h : c.phase = .disconnecting ∨ c.phase = .disconnected) : c.disconnect = (false, c) := by
  unfold disconnect
  rcases h with h | h <;> rw [h]

end Connection

end ChatLobby
