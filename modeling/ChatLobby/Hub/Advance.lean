import ChatLobby.Connection.Batch
import ChatLobby.Hub.Basic

/-!
# What connections do by themselves

A started connection greets its handler, then receives whatever came, and when nothing is left to
receive goes on with sending, one write at a time.  Once its end is decided it is torn down: what
was not written is discarded, the stream is closed, the handler is told, and nothing happens any
more.

`Connection.next?` says what a connection would do next, `Hub.advance` does it, and `Hub.settle`
goes on until no connection has anything left to do.  Whether something is to be sent is not asked
of the queue: a connection sends because it was woken, and goes on until it finds nothing queued.
-/

namespace ChatLobby

/-- What a connection does next. -/
inductive Progress where
  /-- Tell the handler that the socket is attached. -/
  | greet
  /-- End, as someone here asked for it. -/
  | obey
  /-- Receive. -/
  | receive
  /-- End, as the peer closed its side. -/
  | endOfStream
  /-- Fail, as the peer broke the stream off. -/
  | brokenOff
  /-- Go on with sending. -/
  | flush
  deriving DecidableEq, Repr

/-- What a connection does next, if anything. -/
def Connection.next? {τ : Type} (c : Connection τ) : Option Progress :=
  match c.phase with
  | .pending | .disconnected => none
  | .disconnecting => some (if c.greeted then .obey else .greet)
  | .connected =>
    if !c.greeted then some .greet
    else if !c.socket.inbound.isEmpty then some .receive
    else
      match c.socket.remote with
      | .finished => some .endOfStream
      | .reset => some .brokenOff
      | .open => if c.sender.isActive then some .flush else none

/-- How much a socket gives and takes at a time. -/
structure Pace where
  /-- How many of `n` bytes that could be read are read. -/
  read : Nat → Nat := id
  /-- How many of `n` offered bytes a write takes. -/
  write : Nat → Nat := id

namespace Pace

/-- How many of `n` bytes that could be read are read: one at least, if there are any. -/
def share (pace : Pace) (n : Nat) : Nat := min n (max 1 (pace.read n))

end Pace

/-- The connection with the first `n` bytes that came moved into the receive buffer, which is
`cursor` then. -/
def Connection.fetched {τ : Type} (c : Connection τ) (n : Nat) (cursor : Cursor) : Connection τ :=
  { c with cursor, socket := { c.socket with inbound := c.socket.inbound.drop n } }

/-- Move bytes that came into the receive buffer: after making room, as many as fit. -/
def Connection.fetch {τ : Type} (c : Connection τ) (pace : Pace) :
    Except CursorError (Connection τ) :=
  let cursor := c.cursor.compact (max c.sizing.minSpace 1)
  let n := pace.share (min cursor.free c.socket.inbound.length)
  ((cursor.fill (c.socket.inbound.take n)).commit n).map (c.fetched n)

/-- Fetching always works.  It moves the first bytes of the stream behind the unread ones, one byte
at least if there are any, as there is free space for it. -/
theorem Connection.fetch_spec {τ : Type} (c : Connection τ) (pace : Pace) :
    ∃ n cursor, c.fetch pace = .ok (c.fetched n cursor) ∧
      cursor.view = c.cursor.view ++ c.socket.inbound.take n ∧ n ≤ c.socket.inbound.length ∧
      0 < (c.cursor.compact (max c.sizing.minSpace 1)).free ∧ (c.socket.inbound ≠ [] → 0 < n) := by
  have hfree := c.cursor.le_free_compact (max c.sizing.minSpace 1)
  rw [fetch]
  generalize hroom : c.cursor.compact (max c.sizing.minSpace 1) = room at *
  generalize hn : pace.share (min room.free c.socket.inbound.length) = n
  have hle : n ≤ min room.free c.socket.inbound.length := by
    rw [← hn, Pace.share]
    omega
  have hlength : (c.socket.inbound.take n).length = n := by rw [List.length_take]; omega
  have hfit : (c.socket.inbound.take n).length ≤ room.free := by omega
  obtain ⟨cursor, hcommit⟩ :
      ∃ cursor, (room.fill (c.socket.inbound.take n)).commit n = .ok cursor :=
    Cursor.commit_of_le (by rw [Cursor.free_fill]; omega)
  have htaken : (room.fill (c.socket.inbound.take n)).room.take n = c.socket.inbound.take n := by
    have := Cursor.take_room_fill hfit
    rwa [hlength] at this
  refine ⟨n, cursor, ?_, ?_, by omega, by omega, ?_⟩
  · rw [hcommit]
    rfl
  · rw [Cursor.view_commit hcommit, Cursor.view_fill, htaken, ← hroom, Cursor.view_compact]
  · intro hne
    have hpos : 0 < c.socket.inbound.length := List.length_pos_iff.mpr hne
    rw [← hn, Pace.share]
    omega

/-- The connection with `n` bytes more of its batch written, after `total`. -/
def Connection.wrote {τ : Type} (c : Connection τ) (total n : Nat) : Connection τ :=
  { c with
    sender := c.sender.wrote total n
    socket := { c.socket with
      delivered := c.socket.delivered ++ (Batch.offer c.sender.batch).take n } }

/-- One move of the sending side: it wakes up, exchanges the queue for its batch, which is empty
then, or writes once.  Answers how many bytes a batch had, when it is written; a write that takes
nothing of what it is offered has failed. -/
def Connection.sendOn {τ : Type} (c : Connection τ) (pace : Pace) :
    Except IoError (Option Nat) × Connection τ :=
  match c.sender.stage with
  | .waiting => (.ok none, if c.sender.woken then { c with sender := c.sender.rouse } else c)
  | .looking =>
    (.ok none,
      if c.queue.isEmpty then { c with sender := c.sender.rest }
      else { c with queue := c.sender.batch, sender := c.sender.load c.queue })
  | .writing total =>
    if c.sender.batch.isEmpty then (.ok (some total), { c with sender := c.sender.lookAgain })
    else
      let offered := (Batch.offer c.sender.batch).length
      let n := min (pace.write offered) offered
      if n = 0 then (.error .wroteNothing, c) else (.ok none, c.wrote total n)

namespace Hub

variable {σ τ : Type}

/-- End a connection: discard what was not written, close the stream, tell the handler and give up
the receive buffer.  Whoever asked for the end before is the reason of it, and else `outcome` is. -/
def teardown (handler : Handler σ τ) (i : ConnectionId) (outcome : DisconnectReason)
    (h : Hub σ τ) : Hub σ τ :=
  match h.connection? i with
  | none => h
  | some c =>
    let reason := if c.isConnected then outcome else .requested
    let h := h.modify i (·.shut)
    let (_, h) := h.call i (handler.onDisconnected i reason)
    h.modify i (·.finish reason)

/-- End a connection that failed. -/
def fail (handler : Handler σ τ) (i : ConnectionId) (cause : ConnectionError) (h : Hub σ τ) :
    Hub σ τ :=
  h.teardown handler i (.ofError cause)

/-- Tell the handler that the socket is attached. -/
def greet (handler : Handler σ τ) (i : ConnectionId) (h : Hub σ τ) : Hub σ τ :=
  let h := h.modify i fun c => { c with greeted := true }
  match h.call i (handler.onConnected i) with
  | (some (), h) => h
  | (none, h) => h.fail handler i .handlerPanicked

/-- Receive once, and give the handler everything that is unread. -/
def receive (handler : Handler σ τ) (pace : Pace) (i : ConnectionId) (h : Hub σ τ) : Hub σ τ :=
  match h.connection? i with
  | none => h
  | some c =>
    match c.fetch pace with
    | .error cause => h.fail handler i (.cursor cause)
    | .ok c =>
      let h := h.modify i fun _ => c
      match h.call i (handler.onReceived i c.cursor.view) with
      | (none, h) => h.fail handler i .handlerPanicked
      | (some (.error cause), h) => h.fail handler i cause
      | (some (.ok consumed), h) =>
        if c.cursor.readable < consumed then
          h.fail handler i (.consumedOutOfRange consumed c.cursor.readable)
        else
          match c.cursor.consume consumed with
          | .error cause => h.fail handler i (.cursor cause)
          | .ok cursor => h.modify i fun c => { c with cursor }

/-- Go on with sending.  When a batch is written the handler is told how many bytes that were, and
when a write fails the connection does. -/
def flush (handler : Handler σ τ) (pace : Pace) (i : ConnectionId) (h : Hub σ τ) : Hub σ τ :=
  match h.connection? i with
  | none => h
  | some c =>
    let (outcome, c) := c.sendOn pace
    let h := h.modify i fun _ => c
    match outcome with
    | .error cause => h.fail handler i (.io cause)
    | .ok none => h
    | .ok (some total) =>
      match h.call i (handler.onSent i total) with
      | (some (), h) => h
      | (none, h) => h.fail handler i .handlerPanicked

/-- Let a connection do what it does next. -/
def advance (handler : Handler σ τ) (pace : Pace) (i : ConnectionId) (h : Hub σ τ) :
    Progress → Hub σ τ
  | .greet => h.greet handler i
  | .obey => h.teardown handler i .requested
  | .receive => h.receive handler pace i
  | .endOfStream => h.teardown handler i .peerClosed
  | .brokenOff => h.fail handler i (.io (.system .connectionReset))
  | .flush => h.flush handler pace i

/-- The first connection that has something to do. -/
def busy? (h : Hub σ τ) : Option (ConnectionId × Progress) :=
  h.connections.zipIdx.findSome? fun (c, index) => c.next?.map (⟨index⟩, ·)

/-- Go on until no connection has anything left to do, for at most `fuel` steps. -/
def settle (handler : Handler σ τ) : (fuel : Nat) → Hub σ τ → Hub σ τ
  | 0, h => h
  | fuel + 1, h =>
    match h.busy? with
    | none => h
    | some (i, progress) => settle handler fuel (h.advance handler {} i progress)

end Hub

/-! ### What the peer does -/

namespace Connection

variable {τ : Type}

/-- Whether there is a peer that has not ended its side. -/
def hasPeer (c : Connection τ) : Bool := c.peer.isSome && c.socket.remote = .open

/-- The peer sends. -/
def peerSends (c : Connection τ) (data : Bytes) : Connection τ :=
  if c.hasPeer then { c with socket := { c.socket with inbound := c.socket.inbound ++ data } }
  else c

/-- The peer ends its side, or breaks the stream off. -/
def peerEnds (c : Connection τ) (how : RemoteSide) : Connection τ :=
  if c.hasPeer then { c with socket := { c.socket with remote := how } } else c

end Connection

end ChatLobby
