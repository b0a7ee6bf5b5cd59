import ChatLobby.Connection.Handler

/-!
# All connections together

A hub is every connection of a process and what their handlers share.  Callbacks reach
connections only through actions, which run here.
-/

namespace ChatLobby

/-- Do some actions to connections. -/
def Action.run {α τ : Type} : Action α → List (Connection τ) → α × List (Connection τ)
  | .done result, cs => (result, cs)
  | .send target data next, cs =>
    match cs[target.index]? with
    | none => (next false).run cs
    | some c => (next (c.send data).1).run (cs.set target.index (c.send data).2)
  | .disconnect target next, cs =>
    match cs[target.index]? with
    | none => (next false).run cs
    | some c => (next c.disconnect.1).run (cs.set target.index c.disconnect.2)

/-- Every connection of a process, and what their handlers share. -/
structure Hub (σ τ : Type) where
  /-- The connections; the identifier of each is its place. -/
  connections : List (Connection τ) := []
  /-- What handlers share. -/
  shared : σ

namespace Hub

variable {σ τ α : Type}

/-- The connection with the given identifier. -/
def connection? (h : Hub σ τ) (i : ConnectionId) : Option (Connection τ) := h.connections[i.index]?

/-- Change one connection. -/
def modify (h : Hub σ τ) (i : ConnectionId) (f : Connection τ → Connection τ) : Hub σ τ :=
  { h with connections := h.connections.modify i.index f }

/-- Where a connection stands. -/
def phase? (h : Hub σ τ) (i : ConnectionId) : Option Phase := (h.connection? i).map (·.phase)

/-- The identifier that the next connection gets. -/
def nextId (h : Hub σ τ) : ConnectionId := ⟨h.connections.length⟩

/-- Make a connection, and keep `session` for it. -/
def create (h : Hub σ τ) (sizing : ReceiveSizing) (session : τ) : ConnectionId × Hub σ τ :=
  (h.nextId, { h with connections := h.connections ++ [{ sizing, session }] })

/-- Do some actions. -/
def act (h : Hub σ τ) (a : Action α) : α × Hub σ τ :=
  let (result, connections) := a.run h.connections
  (result, { h with connections })

/-- Run a callback for a connection.  There is no result if it breaks down. -/
def call (h : Hub σ τ) (i : ConnectionId) (callback : Callback σ τ α) : Option α × Hub σ τ :=
  match h.connection? i with
  | none => (none, h)
  | some c =>
    let ((result, shared, session), h) := h.act (callback.run.run (h.shared, c.session))
    (result, { h with shared }.modify i fun c => { c with session })

/-- Attach a socket to a connection. -/
def start (h : Hub σ τ) (i : ConnectionId) (peer : SocketAddress) :
    Except ConnectionError (Hub σ τ) :=
  match h.connection? i with
  | none => .error .alreadyStarted
  | some c => (c.start peer).map fun c => h.modify i fun _ => c

end Hub

end ChatLobby
