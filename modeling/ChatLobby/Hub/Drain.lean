import ChatLobby.Hub.Advance

/-!
# From hub to network

A hub collects what peers receive.  `Hub.drain` takes that out, for whoever owns the real sockets.
-/

namespace ChatLobby

/-- What goes out to the peer of a connection. -/
structure Outgoing where
  /-- The connection. -/
  connection : ConnectionId
  /-- The bytes. -/
  data : Bytes
  /-- Whether the stream ends behind them. -/
  last : Bool
  deriving DecidableEq, Repr

/-- What goes out to the peer of the connection with the given identifier, if anything does. -/
def Connection.outgoing? {τ : Type} (c : Connection τ) (i : ConnectionId) : Option Outgoing :=
  if c.socket.delivered.isEmpty && !c.socket.closed then none
  else some { connection := i, data := c.socket.delivered, last := c.socket.closed }

/-- Take out what goes to the peers. -/
def Hub.drain {σ τ : Type} (h : Hub σ τ) : List Outgoing × Hub σ τ :=
  (h.connections.zipIdx.filterMap fun (c, index) => c.outgoing? ⟨index⟩,
    { h with
      connections := h.connections.map fun c =>
        { c with accepted := [], socket := { c.socket with delivered := [] } } })

end ChatLobby
