import ChatLobby.Proofs.FrameSoundness
import ChatLobby.Proofs.History
import ChatLobby.Proofs.Runs
import ChatLobby.Server
import Mathlib.Data.List.Induction

/-!
# Runs of a server

A run is a list of moves: clients connect, send, close and reset, connections are asked to end, the
server is shut down, and connections do what they do by themselves, in any order.  One callback is
run at a time.  What a peer sends may be received in any pieces, and a connection may be asked to
end at any time; so it may end before or after any other move, whatever is the reason.

The history of a run says what happened in the lobby (`Server.history`).

* `Server.eq_opened_of_bind`: a server that was bound is one that listens and has an empty lobby, as
  runs begin with.
-/

namespace ChatLobby

/-! ## What happens

What a receipt makes happen is told here without running anything: a session and its frames settle
which packets are handled and what is answered.  `packetsOf` and `replyAll` go along the frames in
the same way and stop at the same one, and `Connection.advanced` puts together what a connection
makes of itself. -/

/-- The packets that are handled out of the frames that a session receives together: all up to the
first that cannot be read or is not accepted. -/
def Lobby.packetsOf (p : FramePolicy) : Session → List Frame → List ClientPacket
  | _, [] => []
  | s, f :: frames =>
    match ClientPacket.ofFrame f with
    | .error _ => []
    | .ok packet =>
      if accepts p s packet then packet :: packetsOf p (s.after packet) frames else []

/-- What the lobby answers to the frames that a session receives together: what is wrong with the
first that is not accepted. -/
def Lobby.replyAll (p : FramePolicy) : Session → List Frame → Except ConnectionError Unit
  | _, [] => .ok ()
  | s, f :: frames =>
    match ClientPacket.ofFrame f with
    | .error cause => .error (refusal cause)
    | .ok packet =>
      match reply p s packet with
      | .error cause => .error (refusal cause)
      | .ok () => replyAll p (s.after packet) frames

/-- What the lobby answers to the bytes that a session receives: how many of them are used up. -/
def Lobby.receipt (p : FramePolicy) (s : Session) (data : Bytes) : Except ConnectionError Nat := do
  replyAll p s ((Decoder.ofPolicy p).scan data).frames
  (Decoder.ofPolicy p).result data

/-- No more is used up than was received. -/
theorem Lobby.le_of_receipt {p : FramePolicy} {s : Session} {data : Bytes} {used : Nat}
    (h : receipt p s data = .ok used) : used ≤ data.length := by
  rw [receipt] at h
  cases hreply : replyAll p s ((Decoder.ofPolicy p).scan data).frames with
  | error cause =>
    rw [hreply] at h
    cases h
  | ok _ =>
    rw [hreply] at h
    have hresult : (Decoder.ofPolicy p).result data = .ok used := h
    have hspec := (Decoder.ofPolicy p).result_spec data
    rw [hresult] at hspec
    exact hspec.1

/-- What a connection makes of itself when it does something by itself, and why it ends then, if it
does.  This leaves out what the lobby makes of its session, and what it is sent meanwhile. -/
def Connection.advanced (p : FramePolicy) (pace : Pace) (c : Connection Session) :
    Progress → Connection Session × Option DisconnectReason
  | .greet => ({ c with greeted := true }, none)
  | .obey => (c, some .requested)
  | .endOfStream => (c, some .peerClosed)
  | .brokenOff => (c, some (.ofError (.io (.system .connectionReset))))
  | .receive =>
    match c.fetch pace with
    | .error cause => (c, some (.ofError (.cursor cause)))
    | .ok c =>
      match Lobby.receipt p c.session c.cursor.view with
      | .error cause => (c, some (.ofError cause))
      | .ok used =>
        match c.cursor.consume used with
        | .error cause => (c, some (.ofError (.cursor cause)))
        | .ok cursor => (c.withCursor cursor, none)
  | .flush =>
    ((c.sendOn pace).2,
      match (c.sendOn pace).1 with
      | .ok _ => none
      | .error cause => some (.ofError (.io cause)))

/-- What happens while connection `i`, which is `c`, does something by itself, except that it may
end then. -/
def Hub.happenings (h : Hub Lobby Session) (i : ConnectionId) (c : Connection Session)
    (pace : Pace) : Progress → List Happening
  | .greet =>
    match h.shared.registry.insert i with
    | .ok _ => [.admitted i]
    | .error _ => [.rejected i]
  | .receive =>
    match c.fetch pace with
    | .ok c =>
      (Lobby.packetsOf h.shared.policy c.session
        ((Decoder.ofPolicy h.shared.policy).scan c.cursor.view).frames).map (.handled i)
    | .error _ => []
  | .obey | .endOfStream | .brokenOff | .flush => []

namespace Server

/-- A server that listens on an address and has an empty lobby. -/
def opened (address : SocketAddress) (sizing : ReceiveSizing) (capacity : Nat)
    (policy : FramePolicy) : Server where
  address := address
  sizing := sizing
  hub := { shared := .ofCapacity capacity policy }

/-- A server that was bound is one that was opened. -/
theorem eq_opened_of_bind {host : Host} {settings : Settings} {s : Server}
    (h : bind host settings = .ok s) :
    ∃ address, s = opened address settings.receiveSizing settings.server.maxConnections.toNat
      settings.framePolicy := by
  obtain ⟨_, -, h⟩ := exists_of_bind_eq_ok h
  obtain ⟨bound, -, h⟩ := exists_of_bind_eq_ok h
  cases h
  exact ⟨bound, rfl⟩

/-! ### Moves and their history

A move of a server is told in the hub, where the callbacks of the lobby are run, and in the history,
where they are not.  The latest comes first in a history, so that what happens in a move is reversed
before it is put in front of the past. -/

/-- What may happen to a server. -/
inductive Move where
  /-- A client connects. -/
  | connect (peer : SocketAddress)
  /-- A client sends. -/
  | peerSends (i : ConnectionId) (data : Bytes)
  /-- A client closes its side, or resets the stream. -/
  | peerEnds (i : ConnectionId) (how : RemoteSide)
  /-- Someone here asks for the end of a connection. -/
  | disconnect (i : ConnectionId)
  /-- Every session is asked to end. -/
  | disconnectAll
  /-- The server stops accepting, and every session is asked to end. -/
  | shutdown
  /-- A connection does something by itself. -/
  | progress (i : ConnectionId) (p : Progress) (pace : Pace)

/-- The connection that makes a move or that it is made to, if it is one only. -/
def Move.subject? : Move → Option ConnectionId
  | connect _ | disconnectAll | shutdown => none
  | peerSends i _ | peerEnds i _ | disconnect i | progress i _ _ => some i

/-- Make a move in the hub. -/
def moveHub (s : Server) (m : ChatLobby.Move Session) : Server :=
  { s with hub := s.hub.move s.handler m }

/-- Make a move. -/
def move (s : Server) : Move → Server
  | .connect peer => (s.accept peer).2
  | .peerSends i data => s.moveHub (.peerSends i data)
  | .peerEnds i how => s.moveHub (.peerEnds i how)
  | .disconnect i => s.moveHub (.disconnect i)
  | .disconnectAll => s.disconnectAll.2
  | .shutdown => s.shutdown.2
  | .progress i p pace => s.moveHub (.progress i p pace)

/-- Make one move after the other. -/
def run (s : Server) (moves : List Move) : Server := moves.foldl move s

/-- What happens in a move, in order. -/
def happenings (s : Server) : Move → List Happening
  | .connect _ => if s.acceptor = .running then [.arrived] else []
  | .peerSends .. | .peerEnds .. => []
  | .disconnect i => if (s.hub.connection? i).isSome then [.asked i] else []
  | .disconnectAll | .shutdown => s.lobby.registry.ids.map .asked
  | .progress i p pace =>
    match s.hub.connection? i with
    | some c =>
      if c.MayDo p then
        s.hub.happenings i c pace p ++
          if (s.move (.progress i p pace)).hub.phase? i = some .disconnected then [.dismissed i]
          else []
      else []
    | none => []

/-- What happened in a run, after what happened before. -/
def historyFrom (past : History) : Server → List Move → History
  | _, [] => past
  | s, m :: moves => historyFrom ((s.happenings m).reverse ++ past) (s.move m) moves

/-- What happened in a run. -/
def history (s : Server) (moves : List Move) : History := s.historyFrom [] moves

theorem run_concat (s : Server) (moves : List Move) (m : Move) :
    s.run (moves ++ [m]) = (s.run moves).move m :=
  List.foldl_concat move s m moves

theorem run_append (s : Server) (moves later : List Move) :
    s.run (moves ++ later) = (s.run moves).run later :=
  List.foldl_append

theorem historyFrom_append (past : History) (s : Server) (moves later : List Move) :
    s.historyFrom past (moves ++ later) =
      (s.run moves).historyFrom (s.historyFrom past moves) later := by
  induction moves generalizing past s with
  | nil => rfl
  | cons m moves ih => exact ih _ _

/-- What happened before stays in the history. -/
theorem suffix_historyFrom (past : History) (s : Server) (moves : List Move) :
    past <:+ s.historyFrom past moves := by
  induction moves generalizing s past with
  | nil => exact List.suffix_refl past
  | cons m moves ih => exact (List.suffix_append _ past).trans (ih _ _)

/-- The last move adds what happens in it. -/
theorem history_concat (s : Server) (moves : List Move) (m : Move) :
    s.history (moves ++ [m]) = ((s.run moves).happenings m).reverse ++ s.history moves :=
  historyFrom_append [] s moves [m]

/-- The history goes back over the history of what was done before. -/
theorem history_suffix (s : Server) {before moves : List Move} (h : before <+: moves) :
    s.history before <:+ s.history moves := by
  obtain ⟨more, rfl⟩ := h
  rw [history, history, historyFrom_append]
  exact suffix_historyFrom ..

/-- A connection that is woken writes what is queued, and waits again. -/
def flushing (i : ConnectionId) : List Move := .replicate 5 (.progress i .flush {})

/-- Two clients connect and enter one room. -/
def meeting : List Move :=
  [.connect ⟨.v4 ⟨127, 0, 0, 1⟩, 1⟩, .connect ⟨.v4 ⟨127, 0, 0, 1⟩, 2⟩,
    .progress ⟨0⟩ .greet {}, .progress ⟨1⟩ .greet {},
    .peerSends ⟨0⟩ [11, 0, 1, 0, 3, 100, 101, 110, 2, 97, 98], .progress ⟨0⟩ .receive {},
    .peerSends ⟨1⟩ [11, 0, 1, 0, 3, 100, 101, 110, 2, 99, 100], .progress ⟨1⟩ .receive {}] ++
    flushing ⟨0⟩ ++ flushing ⟨1⟩

end Server

end ChatLobby
