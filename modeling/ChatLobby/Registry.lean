import ChatLobby.Connection.Handler

/-!
# The registry of connections

The connections that were admitted, up to a limit.
-/

namespace ChatLobby

/-- Admitted connections, each once, and how many there may be. -/
structure Registry where
  /-- How many connections there may be. -/
  capacity : Nat
  /-- The connections, in the order of their admission. -/
  ids : List ConnectionId := []
  deriving DecidableEq, Repr

/-- A registry is full: this many connections are admitted. -/
structure LimitReached where
  capacity : Nat
  deriving DecidableEq, Repr

/-- The text of the error. -/
def LimitReached.message (e : LimitReached) : String := s!"connection limit of {e.capacity} reached"

namespace Registry

/-- Admit a connection.  One that was admitted before stays so even if the registry is full. -/
def insert (r : Registry) (i : ConnectionId) : Except LimitReached Registry :=
  if i ∈ r.ids then .ok r
  else if r.ids.length < r.capacity then .ok { r with ids := r.ids ++ [i] }
  else .error ⟨r.capacity⟩

/-- Whether a connection is admitted. -/
def contains (r : Registry) (i : ConnectionId) : Bool := r.ids.contains i

/-- The connection itself, if it is admitted. -/
def find? (r : Registry) (i : ConnectionId) : Option ConnectionId := r.ids.find? (· = i)

/-- Remove a connection. -/
def remove (r : Registry) (i : ConnectionId) : Registry := { r with ids := r.ids.filter (· ≠ i) }

/-- How many connections are admitted. -/
def count (r : Registry) : Nat := r.ids.length

/-- Whether no connection is admitted. -/
def isEmpty (r : Registry) : Bool := r.ids.isEmpty

/-- Send a payload to every connection but `except`, and count those who accepted it. -/
def broadcast (r : Registry) (data : Bytes) (except : Option ConnectionId) : Action Nat :=
  Action.count (Action.sendTo · data) (r.ids.filter fun i => some i ≠ except)

/-- Ask every connection to end, and count those whose end that decided. -/
def disconnectAll (r : Registry) : Action Nat := Action.count Action.close r.ids

end Registry

end ChatLobby
