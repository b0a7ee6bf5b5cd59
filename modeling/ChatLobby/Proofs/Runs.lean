import ChatLobby.Proofs.Flushing

/-!
# Runs of a hub

A run is a list of moves: connections are made and started, someone sends or asks for the end,
peers send and end their side, and connections do what they do by themselves.  The order is left
open, and so is how much of the stream a connection reads or writes at a time; what `Hub.settle`
does is one of the runs (`settle_eq_run`).

`Connection.Change` says once what a move can do to one connection.  What all changes keep, all
runs keep (`Hub.run_keeps`).
-/

namespace ChatLobby

variable {σ τ : Type}

/-! ## Moves

A run should cover whatever a scheduler, a network and other threads can do.  So `Connection.MayDo`
asks for less than `Connection.next?`, which takes receiving before sending, and a pace comes with
each move, so that the stream may be cut in any way.  A move that may not be made does nothing, and
a list of moves is always a run. -/

namespace Connection

/-- Whether a connection may do something by itself.  Different from `Connection.next?`, receiving
has no precedence over sending, and what was queued before the end was asked for may still go
out.  In any case the sending side goes by its wake-ups only: it may not do anything just because
something is queued. -/
def MayDo (c : Connection τ) : Progress → Prop
  | .greet => (c.phase = .connected ∨ c.phase = .disconnecting) ∧ c.greeted = false
  | .obey => c.phase = .disconnecting ∧ c.greeted = true
  | .receive => c.phase = .connected ∧ c.greeted = true ∧ c.socket.inbound ≠ []
  | .endOfStream =>
    c.phase = .connected ∧ c.greeted = true ∧ c.socket.inbound = [] ∧ c.socket.remote = .finished
  | .brokenOff => c.phase = .connected ∧ c.greeted = true ∧ c.socket.remote = .reset
  | .flush =>
    (c.phase = .connected ∨ c.phase = .disconnecting) ∧ c.greeted = true ∧
      c.sender.isActive = true

instance (c : Connection τ) (p : Progress) : Decidable (c.MayDo p) :=
  match p with
  | .greet => inferInstanceAs (Decidable (_ ∧ _))
  | .obey => inferInstanceAs (Decidable (_ ∧ _))
  | .receive => inferInstanceAs (Decidable (_ ∧ _))
  | .endOfStream => inferInstanceAs (Decidable (_ ∧ _))
  | .brokenOff => inferInstanceAs (Decidable (_ ∧ _))
  | .flush => inferInstanceAs (Decidable (_ ∧ _))

theorem mayDo_of_next? {c : Connection τ} {p : Progress} (h : c.next? = some p) : c.MayDo p := by
  unfold next? at h
  grind [MayDo]

end Connection

/-- What may happen to a hub. -/
inductive Move (τ : Type) where
  /-- A connection is made. -/
  | create (sizing : ReceiveSizing) (session : τ)
  /-- A connection is started. -/
  | start (i : ConnectionId) (peer : SocketAddress)
  /-- Someone sends over a connection. -/
  | send (i : ConnectionId) (data : Bytes)
  /-- Someone asks for the end of a connection. -/
  | disconnect (i : ConnectionId)
  /-- The peer of a connection sends. -/
  | peerSends (i : ConnectionId) (data : Bytes)
  /-- The peer of a connection ends its side. -/
  | peerEnds (i : ConnectionId) (how : RemoteSide)
  /-- A connection does something by itself. -/
  | progress (i : ConnectionId) (p : Progress) (pace : Pace)

namespace Hub

/-- Make a move.  Nothing happens if the connection is not there, or may not do that. -/
def move (handler : Handler σ τ) (h : Hub σ τ) : Move τ → Hub σ τ
  | .create sizing session => (h.create sizing session).2
  | .start i peer => (h.start i peer).toOption.getD h
  | .send i data => (h.act (.sendTo i data)).2
  | .disconnect i => (h.act (.close i)).2
  | .peerSends i data => h.modify i (·.peerSends data)
  | .peerEnds i how => h.modify i (·.peerEnds how)
  | .progress i p pace =>
    match h.connection? i with
    | some c => if c.MayDo p then h.advance handler pace i p else h
    | none => h

/-- Make one move after the other. -/
def run (handler : Handler σ τ) (moves : List (Move τ)) (h : Hub σ τ) : Hub σ τ :=
  moves.foldl (move handler) h

/-- What the peer of connection `i` sends in a move, if it can. -/
def written (h : Hub σ τ) (i : ConnectionId) : Move τ → Bytes
  | .peerSends j data => if j = i ∧ (h.connection? i).any (·.hasPeer) then data else []
  | _ => []

/-- What the peer of connection `i` sends in a run. -/
def writtenIn (handler : Handler σ τ) (i : ConnectionId) : List (Move τ) → Hub σ τ → Bytes
  | [], _ => []
  | m :: moves, h => h.written i m ++ writtenIn handler i moves (h.move handler m)

theorem run_append (handler : Handler σ τ) (moves more : List (Move τ)) (h : Hub σ τ) :
    run handler (moves ++ more) h = run handler more (run handler moves h) := by
  rw [run, run, run, List.foldl_append]

theorem exists_of_busy? {h : Hub σ τ} {i : ConnectionId} {p : Progress}
    (hbusy : h.busy? = some (i, p)) : ∃ c, h.connection? i = some c ∧ c.next? = some p := by
  obtain ⟨⟨c, k⟩, hc, hp⟩ := List.exists_of_findSome?_eq_some hbusy
  obtain ⟨p', hp', heq⟩ := Option.map_eq_some_iff.mp hp
  cases heq
  exact ⟨c, List.mem_zipIdx_iff_getElem?.mp hc, hp'⟩

/-- What connections do until they are quiet is a run. -/
theorem settle_eq_run (handler : Handler σ τ) (fuel : Nat) (h : Hub σ τ) :
    ∃ moves, h.settle handler fuel = run handler moves h := by
  induction fuel generalizing h with
  | zero => exact ⟨[], rfl⟩
  | succ fuel ih =>
    rw [settle]
    cases hb : h.busy? with
    | none => exact ⟨[], rfl⟩
    | some busy =>
      obtain ⟨i, p⟩ := busy
      obtain ⟨moves, hmoves⟩ := ih (h.advance handler {} i p)
      obtain ⟨c, hc, hnext⟩ := exists_of_busy? hb
      -- the first connection that is busy makes the first move
      refine ⟨.progress i p {} :: moves, ?_⟩
      rw [run, List.foldl_cons, move, hc]
      dsimp only
      rw [if_pos (Connection.mayDo_of_next? hnext)]
      exact hmoves

end Hub

/-! ## What a move does to one connection

A move may run callbacks, and callbacks reach all connections.  Seen from one of them there are six
things that can happen to it, the constructors of `Connection.Change`, and what it does by itself is
further told apart by `Connection.Progresses`.  They say nothing about the hub, so that an invariant
of a connection is proved by cases over them and never by unfolding `Hub.move`. -/

/-- The failure that comes of a receipt, if any: what the handler answered is judged by how many
bytes it was given. -/
def receiptFailure? (available : Nat) : Option (Except ConnectionError Nat) → Option ConnectionError
  | none => some .handlerPanicked
  | some (.error cause) => some cause
  | some (.ok used) =>
    if available < used then some (.consumedOutOfRange used available) else none

/-- The reason for the end that comes of a callback that answers nothing, if any. -/
def breakdown? (answer : Option Unit) : Option DisconnectReason :=
  if answer.isSome then none else some (.ofError .handlerPanicked)

namespace Connection

/-- The receive buffer, with room made for the next receive. -/
def roomy (c : Connection τ) : Cursor := c.cursor.compact (max c.sizing.minSpace 1)

/-- What is received goes into the room that was made for it: the storage does not grow. -/
theorem capacity_of_fetch {c : Connection τ} {pace : Pace} {n : Nat} {cursor : Cursor}
    (h : c.fetch pace = .ok (c.fetched n cursor)) : cursor.capacity = c.roomy.capacity := by
  rw [fetch, ← roomy] at h
  generalize c.socket.inbound.take _ = data at h
  rw [Cursor.commit] at h
  split at h
  · have hcursor := congrArg Connection.cursor (Except.ok.inj h)
    rw [← show _ = cursor from hcursor]
    exact Bytes.length_overwrite c.roomy.storage c.roomy.write data
  · cases h

/-- `c.Fetches n cursor`: the first `n` bytes of the stream are moved behind the unread ones, which
gives `cursor`. -/
structure Fetches (c : Connection τ) (n : Nat) (cursor : Cursor) : Prop where
  pos : 0 < n
  le_length : n ≤ c.socket.inbound.length
  view_eq : cursor.view = c.cursor.view ++ c.socket.inbound.take n
  capacity_eq : cursor.capacity = c.roomy.capacity

/-- `Progresses handler i c c' end?`: by itself connection `i` gets from `c` to `c'`, where it goes
on or, for a reason, ends. -/
inductive Progresses (handler : Handler σ τ) (i : ConnectionId) :
    Connection τ → Connection τ → Option DisconnectReason → Prop
  | greet {c c' answer} : c.MayDo .greet →
      (handler.onConnected i).Leads i { c with greeted := true } answer c' →
      Progresses handler i c c' (breakdown? answer)
  | obey {c} : c.MayDo .obey → Progresses handler i c c (some .requested)
  | endOfStream {c} : c.MayDo .endOfStream → Progresses handler i c c (some .peerClosed)
  | brokenOff {c} : c.MayDo .brokenOff →
      Progresses handler i c c (some (.ofError (.io (.system .connectionReset))))
  | receive {c c' n cursor used cursor'} : c.MayDo .receive → c.Fetches n cursor →
      Callback.Leads (handler.onReceived i cursor.view) i (c.fetched n cursor) (some (.ok used))
        c' →
      cursor.consume used = .ok cursor' → Progresses handler i c { c' with cursor := cursor' } none
  | receiveFails {c c' n cursor answer cause} : c.MayDo .receive → c.Fetches n cursor →
      Callback.Leads (handler.onReceived i cursor.view) i (c.fetched n cursor) answer c' →
      receiptFailure? cursor.readable answer = some cause →
      Progresses handler i c c' (some (.ofError cause))
  | sends {c pace} : c.MayDo .flush → (c.sendOn pace).1 = .ok none →
      Progresses handler i c (c.sendOn pace).2 none
  | reports {c c' pace total answer} : c.MayDo .flush → (c.sendOn pace).1 = .ok (some total) →
      (handler.onSent i total).Leads i (c.sendOn pace).2 answer c' →
      Progresses handler i c c' (breakdown? answer)
  | sendFails {c pace cause} : c.MayDo .flush → (c.sendOn pace).1 = .error cause →
      Progresses handler i c (c.sendOn pace).2 (some (.ofError (.io cause)))

/-- The connection with as many bytes of the receive buffer used up as its handler answered. -/
def usedUp (cursor : Cursor) (answer : Option (Except ConnectionError Nat))
    (c : Connection τ) : Connection τ :=
  match answer with
  | some (.ok used) => { c with cursor := (cursor.consume used).toOption.getD c.cursor }
  | _ => c

/-- A receipt that is no failure answers at most as many bytes as were given. -/
theorem receiptFailure?_eq_none_iff {available : Nat}
    {answer : Option (Except ConnectionError Nat)} :
    receiptFailure? available answer = none ↔
      ∃ used, answer = some (.ok used) ∧ used ≤ available := by
  rcases answer with _ | _ | used
  · simp [receiptFailure?]
  · simp [receiptFailure?]
  · simp [receiptFailure?]

/-- A receipt that fails uses nothing up. -/
theorem usedUp_of_failure {cursor : Cursor} {answer : Option (Except ConnectionError Nat)}
    {cause : ConnectionError} (h : receiptFailure? cursor.readable answer = some cause) :
    (usedUp cursor answer : Connection τ → Connection τ) = fun c => c := by
  funext c
  rcases answer with _ | cause' | used
  · rfl
  · rfl
  · rw [receiptFailure?] at h
    split at h
    · next hlt =>
      have hout : cursor.consume used = .error (.readOverflow used cursor.readable) :=
        dif_neg (Nat.not_le_of_lt hlt)
      rw [usedUp, hout]
      rfl
    · cases h

/-- A receipt that works uses up what was answered. -/
theorem usedUp_of_consume {cursor cursor' : Cursor} {used : Nat}
    (h : cursor.consume used = .ok cursor') :
    (usedUp cursor (some (.ok used)) : Connection τ → Connection τ) =
      fun c => { c with cursor := cursor' } := by
  funext c
  rw [usedUp, h]
  rfl

/-- The reason that the handler is told when a connection ends: whoever asked for the end before
is the reason of it. -/
def reasonFor (c : Connection τ) (outcome : DisconnectReason) : DisconnectReason :=
  if c.isConnected then outcome else .requested

/-- `TornDown handler i outcome c c'`: the end takes connection `i` from `c` to `c'`. -/
def TornDown (handler : Handler σ τ) (i : ConnectionId) (outcome : DisconnectReason)
    (c c' : Connection τ) : Prop :=
  ∃ answer d,
    (handler.onDisconnected i (c.reasonFor outcome)).Leads i c.shut answer d ∧
    c' = d.finish (c.reasonFor outcome)

/-- `Change handler i w c c'`: a move may take connection `i` from `c` to `c'`, while its peer
sends `w`. -/
inductive Change (handler : Handler σ τ) (i : ConnectionId) :
    Bytes → Connection τ → Connection τ → Prop
  | touched {c c'} : c.Touched c' → Change handler i [] c c'
  | started {c c' peer} : c.start peer = .ok c' → Change handler i [] c c'
  | peerSends {c} (data : Bytes) : c.hasPeer = true → Change handler i data c (c.peerSends data)
  | peerEnds {c} (how : RemoteSide) : Change handler i [] c (c.peerEnds how)
  | goesOn {c c'} : Progresses handler i c c' none → Change handler i [] c c'
  | ends {c d c' outcome} : Progresses handler i c d (some outcome) →
      TornDown handler i outcome d c' → Change handler i [] c c'

/-- The peer changes nothing but what is on the stream. -/
theorem peerSends_eq (c : Connection τ) (data : Bytes) :
    c.peerSends data = { c with socket := (c.peerSends data).socket } := by
  unfold peerSends
  split <;> rfl

theorem peerEnds_eq (c : Connection τ) (how : RemoteSide) :
    c.peerEnds how = { c with socket := (c.peerEnds how).socket } := by
  unfold peerEnds
  split <;> rfl

theorem delivered_peerSends (c : Connection τ) (data : Bytes) :
    (c.peerSends data).socket.delivered = c.socket.delivered := by
  unfold peerSends
  split <;> rfl

theorem delivered_peerEnds (c : Connection τ) (how : RemoteSide) :
    (c.peerEnds how).socket.delivered = c.socket.delivered := by
  unfold peerEnds
  split <;> rfl

/-- What was not written is discarded at the end. -/
theorem shut_eq (c : Connection τ) :
    c.shut = { c with
      phase := c.claimEnd.phase
      trail := c.claimEnd.trail
      queue := []
      sender := c.sender.stop
      socket := { c.socket with closed := true } } := by
  unfold shut claimEnd
  split <;> rfl

section Over

variable {handler : Handler σ τ} {i : ConnectionId} {c c' d : Connection τ}

/-! ### Before the start and after the end

Nothing happens by itself to a connection that was not started or that is over. -/

/-- Only connections that are under way do anything. -/
theorem MayDo.phase_alive {p : Progress} (h : c.MayDo p) :
    c.phase = .connected ∨ c.phase = .disconnecting := by
  cases p with
  | greet | flush => exact h.1
  | obey => exact .inr h.1
  | receive | endOfStream | brokenOff => exact .inl h.1

theorem Progresses.exists_mayDo {end? : Option DisconnectReason}
    (h : Progresses handler i c d end?) : ∃ p, c.MayDo p := by
  cases h with
  | greet hmay | obey hmay | endOfStream hmay | brokenOff hmay | receive hmay | receiveFails hmay
  | sends hmay | reports hmay | sendFails hmay => exact ⟨_, hmay⟩

/-- A connection that is over does nothing by itself. -/
theorem Progresses.not_over {end? : Option DisconnectReason} (h : Progresses handler i c d end?) :
    c.phase ≠ .disconnected := by
  obtain ⟨p, hmay⟩ := h.exists_mayDo
  intro hover
  have halive := hmay.phase_alive
  rw [hover] at halive
  rcases halive with h | h <;> cases h

/-- What a connection does by itself does not take it back, nor to its end. -/
theorem Progresses.phase_alive {end? : Option DisconnectReason}
    (h : Progresses handler i c d end?) : d.phase = .connected ∨ d.phase = .disconnecting := by
  obtain ⟨p, hmay⟩ := h.exists_mayDo
  have halive := hmay.phase_alive
  cases h with
  | obey | endOfStream | brokenOff => exact halive
  | sends | sendFails => rwa [phase_sendOn]
  | reports _ _ hleads =>
    rw [← phase_sendOn] at halive
    exact hleads.touched.phase_alive halive
  | greet _ hleads | receiveFails _ _ hleads => exact hleads.touched.phase_alive halive
  | receive _ _ hleads => exact hleads.touched.phase_alive halive

/-- A connection that is over stays as it is, except that its peer may still send. -/
theorem Change.of_over {w : Bytes} (h : Change handler i w c c') (hover : c.phase = .disconnected) :
    c' = { c with socket := c'.socket } := by
  cases h with
  | touched htouched => rw [htouched.eq_of_ending (.inr hover)]
  | started hstart =>
    unfold start at hstart
    rw [hover] at hstart
    cases hstart
  | peerSends => exact peerSends_eq c w
  | peerEnds how => exact peerEnds_eq c how
  | goesOn hprogresses => exact absurd hover hprogresses.not_over
  | ends hprogresses _ => exact absurd hover hprogresses.not_over

/-- What a connection does by itself leaves its peer alone, and nothing is said about its end. -/
theorem Progresses.peer_eq {end? : Option DisconnectReason} (h : Progresses handler i c d end?) :
    d.peer = c.peer ∧ d.ended = c.ended := by
  cases h with
  | obey | endOfStream | brokenOff => exact ⟨rfl, rfl⟩
  | sends | sendFails =>
    rw [(sendsOn ..).rest_eq]
    exact ⟨rfl, rfl⟩
  | reports _ _ hleads =>
    have htouched := hleads.touched
    rw [(sendsOn ..).rest_eq] at htouched
    exact ⟨htouched.peer_eq, htouched.ended_eq⟩
  | greet _ hleads | receiveFails _ _ hleads =>
    exact ⟨hleads.touched.peer_eq, hleads.touched.ended_eq⟩
  | receive _ _ hleads => exact ⟨hleads.touched.peer_eq, hleads.touched.ended_eq⟩

end Over

end Connection

namespace Hub

open Connection

variable {handler : Handler σ τ} {h h' h'' : Hub σ τ} {i j : ConnectionId} {c c' d : Connection τ}
  {outcome : DisconnectReason}

/-! ### Other connections

The callbacks of one connection may touch any other.  Each step of a move is within the connection
that makes it, and what is made of several such steps is, too. -/

/-- `h.Touches j h'`: from `h` to `h'`, connection `j` is only sent over, or asked to end. -/
def Touches (h : Hub σ τ) (j : ConnectionId) (h' : Hub σ τ) : Prop :=
  ∀ c, h.connection? j = some c → ∃ c', h'.connection? j = some c' ∧ c.Touched c'

/-- `h.Within i h'`: from `h` to `h'`, connections other than `i` are only sent over, or asked to
end, and none is made. -/
structure Within (h : Hub σ τ) (i : ConnectionId) (h' : Hub σ τ) : Prop where
  touches : ∀ j, j ≠ i → h.Touches j h'
  length_eq : h'.connections.length = h.connections.length

theorem Touches.trans (h₁ : h.Touches j h') (h₂ : h'.Touches j h'') : h.Touches j h'' := by
  intro c hc
  obtain ⟨d, hd, hcd⟩ := h₁ c hc
  obtain ⟨e, he, hde⟩ := h₂ d hd
  exact ⟨e, he, hcd.trans hde⟩

theorem Within.refl (h : Hub σ τ) (i : ConnectionId) : h.Within i h where
  touches _ _ c hc := ⟨c, hc, .refl c⟩
  length_eq := rfl

theorem Within.trans (h₁ : h.Within i h') (h₂ : h'.Within i h'') : h.Within i h'' where
  touches j hne := (h₁.touches j hne).trans (h₂.touches j hne)
  length_eq := h₂.length_eq.trans h₁.length_eq

theorem within_modify (h : Hub σ τ) (i : ConnectionId) (f : Connection τ → Connection τ) :
    h.Within i (h.modify i f) where
  touches _ hne c hc := ⟨c, (connection?_modify_of_ne f hne).trans hc, .refl c⟩
  length_eq := length_modify f

theorem within_call {α : Type} (h : Hub σ τ) (i : ConnectionId) (callback : Callback σ τ α) :
    h.Within i (h.call i callback).2 where
  touches _ hne _ hc := call_touches callback hc hne
  length_eq := length_call callback

theorem within_act {α : Type} (h : Hub σ τ) (i : ConnectionId) (a : Action α) :
    h.Within i (h.act a).2 where
  touches j _ c hc := by
    obtain ⟨c', hc', hleads⟩ := Action.run_leads a hc
    exact ⟨c', hc', hleads.touched⟩
  length_eq := Action.length_run a h.connections

theorem within_teardown (handler : Handler σ τ) (i : ConnectionId) (outcome : DisconnectReason)
    (h : Hub σ τ) : h.Within i (h.teardown handler i outcome) := by
  rw [teardown]
  split
  · exact .refl h i
  · exact ((within_modify ..).trans (within_call ..)).trans (within_modify ..)

/-! ### The end

Every failure and every regular end goes through `Hub.teardown`.  So progress is split in two: what
the connection does first, and the end if there is a reason for it. -/

/-- End a connection, if there is a reason to. -/
def conclude (handler : Handler σ τ) (i : ConnectionId) (h : Hub σ τ) :
    Option DisconnectReason → Hub σ τ
  | none => h
  | some outcome => h.teardown handler i outcome

theorem within_conclude (handler : Handler σ τ) (i : ConnectionId) (h : Hub σ τ)
    (end? : Option DisconnectReason) : h.Within i (h.conclude handler i end?) := by
  cases end? with
  | none => exact .refl h i
  | some outcome => exact within_teardown ..

/-- What becomes of the connection that ends. -/
theorem teardown_tornDown (handler : Handler σ τ) (outcome : DisconnectReason)
    (hc : h.connection? i = some c) :
    ∃ c', (h.teardown handler i outcome).connection? i = some c' ∧
      TornDown handler i outcome c c' := by
  have hshut := connection?_modify_self shut hc
  obtain ⟨d, hd, hleads⟩ := call_leads (handler.onDisconnected i (c.reasonFor outcome)) hshut
  rw [teardown, hc]
  exact ⟨_, connection?_modify_self _ hd, _, d, hleads, rfl⟩

/-- What becomes of the connection that progressed. -/
theorem conclude_change {end? : Option DisconnectReason} (hd : h.connection? i = some d)
    (hp : Progresses handler i c d end?) :
    ∃ c', (h.conclude handler i end?).connection? i = some c' ∧ Change handler i [] c c' := by
  cases end? with
  | none => exact ⟨d, hd, .goesOn hp⟩
  | some outcome =>
    obtain ⟨c', hc', hdown⟩ := teardown_tornDown handler outcome hd
    exact ⟨c', hc', .ends hp hdown⟩

/-! ### Progress

Each kind of progress is brought into this form: a hub `h'` in which the callback has run, and
perhaps a reason for the end.  Receiving is the only one where the answer of the handler has to be
judged. -/

/-- `h.Proceeds handler i c h' end?`: connection `i`, which was `c`, made progress from `h` to `h'`
and then goes on or, for a reason, ends. -/
structure Proceeds (handler : Handler σ τ) (i : ConnectionId) (c : Connection τ) (h h' : Hub σ τ)
    (end? : Option DisconnectReason) : Prop where
  progresses : ∃ d, h'.connection? i = some d ∧ Progresses handler i c d end?
  within : h.Within i h'

/-- Greeting is a callback, and an end if it breaks down. -/
theorem greet_eq (handler : Handler σ τ) (i : ConnectionId) (h : Hub σ τ) :
    h.greet handler i =
      (((h.modify i fun c => { c with greeted := true }).call i (handler.onConnected i)).2).conclude
        handler i (breakdown?
          ((h.modify i fun c => { c with greeted := true }).call i (handler.onConnected i)).1) := by
  rw [greet]
  rcases (h.modify i fun c => { c with greeted := true }).call i (handler.onConnected i)
    with ⟨_ | _, _⟩ <;> rfl

/-- Receiving is a callback, and what is made of its answer. -/
theorem receive_eq (handler : Handler σ τ) {pace : Pace} {n : Nat} {cursor : Cursor}
    (hc : h.connection? i = some c) (hfetch : c.fetch pace = .ok (c.fetched n cursor)) :
    h.receive handler pace i =
      (fun called : Option (Except ConnectionError Nat) × Hub σ τ =>
        (called.2.modify i (usedUp cursor called.1)).conclude handler i
          ((receiptFailure? cursor.readable called.1).map .ofError))
        ((h.modify i fun _ => c.fetched n cursor).call i (handler.onReceived i cursor.view)) := by
  rw [receive, hc]
  dsimp only
  rw [hfetch]
  dsimp only
  rw [show (c.fetched n cursor).cursor = cursor from rfl]
  generalize (h.modify i fun _ => c.fetched n cursor).call i (handler.onReceived i cursor.view)
    = called
  obtain ⟨answer, h'⟩ := called
  dsimp only
  -- the same five outcomes come up on both sides
  cases hfailure : receiptFailure? cursor.readable answer with
  | some cause =>
    rw [usedUp_of_failure hfailure, modify_self]
    rcases answer with _ | cause' | used
    · cases hfailure
      rfl
    · cases hfailure
      rfl
    · rw [receiptFailure?] at hfailure
      split at hfailure
      · next hlt =>
        cases hfailure
        exact if_pos hlt
      · cases hfailure
  | none =>
    obtain ⟨used, rfl, hused⟩ := receiptFailure?_eq_none_iff.mp hfailure
    obtain ⟨cursor', hconsume⟩ := Cursor.consume_of_le hused
    dsimp only
    rw [usedUp_of_consume hconsume, if_neg (Nat.not_lt.mpr hused), hconsume]
    rfl

/-- A move of the sending side is a callback when a batch is written, and an end when a write
fails. -/
theorem flush_eq (handler : Handler σ τ) (pace : Pace) (hc : h.connection? i = some c) :
    h.flush handler pace i =
      match (c.sendOn pace).1 with
      | .error cause =>
        (h.modify i fun _ => (c.sendOn pace).2).teardown handler i (.ofError (.io cause))
      | .ok none => h.modify i fun _ => (c.sendOn pace).2
      | .ok (some total) =>
        (fun called : Option Unit × Hub σ τ => called.2.conclude handler i (breakdown? called.1))
          ((h.modify i fun _ => (c.sendOn pace).2).call i (handler.onSent i total)) := by
  rw [flush, hc]
  dsimp only
  rcases (c.sendOn pace).1 with cause | _ | total
  · rfl
  · rfl
  · dsimp only
    rcases Hub.call _ i (handler.onSent i total) with ⟨_ | _, h'⟩ <;> rfl

theorem greet_proceeds (hc : h.connection? i = some c) (hmay : c.MayDo .greet) :
    ∃ h' end?, h.greet handler i = h'.conclude handler i end? ∧
      Proceeds handler i c h h' end? := by
  obtain ⟨d, hd, hleads⟩ := call_leads (handler.onConnected i)
    (connection?_modify_self (fun c : Connection τ => { c with greeted := true }) hc)
  exact ⟨_, _, greet_eq handler i h, ⟨d, hd, .greet hmay hleads⟩,
    (within_modify ..).trans (within_call ..)⟩

theorem receive_proceeds (pace : Pace) (hc : h.connection? i = some c) (hmay : c.MayDo .receive) :
    ∃ h' end?, h.receive handler pace i = h'.conclude handler i end? ∧
      Proceeds handler i c h h' end? := by
  obtain ⟨n, cursor, hfetch, hview, hle, _, hpos⟩ := c.fetch_spec pace
  have hfetches : c.Fetches n cursor :=
    ⟨hpos hmay.2.2, hle, hview, Connection.capacity_of_fetch hfetch⟩
  obtain ⟨d, hd, hleads⟩ := call_leads (handler.onReceived i cursor.view)
    (connection?_modify_self (fun _ => c.fetched n cursor) hc)
  have hwithin := (within_modify h i fun _ => c.fetched n cursor).trans
    (within_call _ i (handler.onReceived i cursor.view))
  rw [receive_eq handler hc hfetch]
  generalize (h.modify i fun _ => c.fetched n cursor).call i (handler.onReceived i cursor.view)
    = called at *
  obtain ⟨answer, h'⟩ := called
  refine ⟨h'.modify i (usedUp cursor answer), _, rfl, ⟨_, connection?_modify_self _ hd, ?_⟩,
    hwithin.trans (within_modify ..)⟩
  -- what the handler answered decides how the receipt ends
  dsimp only
  cases hfailure : receiptFailure? cursor.readable answer with
  | some cause =>
    rw [usedUp_of_failure hfailure]
    exact .receiveFails hmay hfetches hleads hfailure
  | none =>
    obtain ⟨used, rfl, hused⟩ := receiptFailure?_eq_none_iff.mp hfailure
    obtain ⟨cursor', hconsume⟩ := Cursor.consume_of_le hused
    rw [usedUp_of_consume hconsume]
    exact .receive hmay hfetches hleads hconsume

theorem flush_proceeds (pace : Pace) (hc : h.connection? i = some c) (hmay : c.MayDo .flush) :
    ∃ h' end?, h.flush handler pace i = h'.conclude handler i end? ∧
      Proceeds handler i c h h' end? := by
  have hd := connection?_modify_self (fun _ => (c.sendOn pace).2) hc
  have hwithin := within_modify h i fun _ => (c.sendOn pace).2
  rw [flush_eq handler pace hc]
  cases hresult : (c.sendOn pace).1 with
  | error cause => exact ⟨_, some _, rfl, ⟨_, hd, .sendFails hmay hresult⟩, hwithin⟩
  | ok told =>
    cases told with
    | none => exact ⟨_, none, rfl, ⟨_, hd, .sends hmay hresult⟩, hwithin⟩
    | some total =>
      obtain ⟨d, hd', hleads⟩ := call_leads (handler.onSent i total) hd
      exact ⟨_, breakdown? _, rfl, ⟨d, hd', .reports hmay hresult hleads⟩,
        hwithin.trans (within_call ..)⟩

/-- Whatever a connection does by itself, it proceeds. -/
theorem advance_proceeds (handler : Handler σ τ) (pace : Pace) {p : Progress}
    (hc : h.connection? i = some c) (hmay : c.MayDo p) :
    ∃ h' end?, h.advance handler pace i p = h'.conclude handler i end? ∧
      Proceeds handler i c h h' end? := by
  cases p with
  | greet => exact greet_proceeds hc hmay
  | receive => exact receive_proceeds pace hc hmay
  | flush => exact flush_proceeds pace hc hmay
  | obey => exact ⟨h, _, rfl, ⟨c, hc, .obey hmay⟩, .refl h i⟩
  | endOfStream => exact ⟨h, _, rfl, ⟨c, hc, .endOfStream hmay⟩, .refl h i⟩
  | brokenOff => exact ⟨h, _, rfl, ⟨c, hc, .brokenOff hmay⟩, .refl h i⟩

/-! ### Moves

The six constructors of `Connection.Change`, one move after the other.  A move that concerns another
connection leaves this one as it is or touches it. -/

/-- Whatever someone does to connections, each of them is touched. -/
theorem act_change {α : Type} (a : Action α) (hc : h.connection? i = some c) :
    ∃ c', (h.act a).2.connection? i = some c' ∧ Change handler i [] c c' := by
  obtain ⟨c', hc', hleads⟩ := Action.run_leads a hc
  exact ⟨c', hc', .touched hleads.touched⟩

/-- Starting a connection changes that one. -/
theorem start_eq_ok {peer : SocketAddress} (hstart : h.start j peer = .ok h') :
    ∃ b b', h.connection? j = some b ∧ b.start peer = .ok b' ∧ h' = h.modify j fun _ => b' := by
  rw [Hub.start] at hstart
  split at hstart
  · cases hstart
  · next b hb =>
    cases hstarted : b.start peer with
    | error cause =>
      rw [hstarted] at hstart
      cases hstart
    | ok b' =>
      rw [hstarted] at hstart
      cases hstart
      exact ⟨b, b', hb, hstarted, rfl⟩

theorem start_change {peer : SocketAddress} (hstart : h.start j peer = .ok h')
    (hc : h.connection? i = some c) :
    ∃ c', h'.connection? i = some c' ∧ Change handler i [] c c' := by
  obtain ⟨b, b', hb, hstarted, rfl⟩ := start_eq_ok hstart
  by_cases hj : j = i
  · subst hj
    rw [hb] at hc
    cases hc
    exact ⟨b', connection?_modify_self _ hb, .started hstarted⟩
  · exact ⟨c, (connection?_modify_of_ne _ fun hij => hj hij.symm).trans hc, .touched (.refl c)⟩

/-- The case of `move_change` in which a connection does something by itself. -/
theorem progress_change (j : ConnectionId) (p : Progress) (pace : Pace)
    (hc : h.connection? i = some c) :
    ∃ c', (h.move handler (.progress j p pace)).connection? i = some c' ∧
      Change handler i [] c c' := by
  have hstays : ∃ c', h.connection? i = some c' ∧ Change handler i [] c c' :=
    ⟨c, hc, .touched (.refl c)⟩
  rw [move]
  split
  · next b hb =>
    split
    · next hmay =>
      obtain ⟨h', end?, heq, ⟨d, hd, hprogresses⟩, hwithin⟩ :=
        advance_proceeds handler pace hb hmay
      rw [heq]
      by_cases hj : j = i
      · subst hj
        rw [hb] at hc
        cases hc
        exact conclude_change hd hprogresses
      · -- another connection made progress, which at most touches this one
        have hall := hwithin.trans (within_conclude handler j h' end?)
        obtain ⟨c', hc', htouched⟩ := hall.touches i (fun hij => hj hij.symm) c hc
        exact ⟨c', hc', .touched htouched⟩
    · exact hstays
  · exact hstays

/-- **What a move does to a connection** that is there, it does by one `Connection.Change`. -/
theorem move_change (handler : Handler σ τ) (m : Move τ) (hc : h.connection? i = some c) :
    ∃ c', (h.move handler m).connection? i = some c' ∧ Change handler i (h.written i m) c c' := by
  have hstays : Change handler i [] c c := .touched (.refl c)
  cases m with
  | create sizing session =>
    exact ⟨c, (List.getElem?_append_left (List.getElem?_eq_some_iff.mp hc).1).trans hc, hstays⟩
  | start j peer =>
    show ∃ c', ((h.start j peer).toOption.getD h).connection? i = some c' ∧ _
    cases hstart : h.start j peer with
    | error cause => exact ⟨c, hc, hstays⟩
    | ok h' => exact start_change hstart hc
  | send j data => exact act_change _ hc
  | disconnect j => exact act_change _ hc
  | peerSends j data =>
    by_cases hj : j = i
    · subst hj
      refine ⟨_, connection?_modify_self _ hc, ?_⟩
      rw [written, hc]
      by_cases hpeer : c.hasPeer = true
      · rw [if_pos ⟨rfl, hpeer⟩]
        exact .peerSends data hpeer
      · -- nobody is there who could send
        have hsame : c.peerSends data = c := if_neg hpeer
        rw [if_neg fun h => hpeer h.2, hsame]
        exact hstays
    · refine ⟨c, (connection?_modify_of_ne _ fun hij => hj hij.symm).trans hc, ?_⟩
      rw [written, if_neg fun h => hj h.1]
      exact hstays
  | peerEnds j how =>
    by_cases hj : j = i
    · subst hj
      exact ⟨_, connection?_modify_self _ hc, .peerEnds how⟩
    · exact ⟨c, (connection?_modify_of_ne _ fun hij => hj hij.symm).trans hc, hstays⟩
  | progress j p pace => exact progress_change j p pace hc

/-- Only making a connection changes how many there are. -/
theorem length_move_of_ne_create (handler : Handler σ τ) {m : Move τ}
    (hm : ∀ sizing session, m ≠ .create sizing session) :
    (h.move handler m).connections.length = h.connections.length := by
  cases m with
  | create sizing session => exact absurd rfl (hm sizing session)
  | start j peer =>
    show ((h.start j peer).toOption.getD h).connections.length = _
    cases hstart : h.start j peer with
    | error cause => rfl
    | ok h' =>
      obtain ⟨b, b', _, _, rfl⟩ := start_eq_ok hstart
      exact length_modify _
  | send j data => exact Action.length_run _ _
  | disconnect j => exact Action.length_run _ _
  | peerSends j data => exact length_modify _
  | peerEnds j how => exact length_modify _
  | progress j p pace =>
    rw [move]
    split
    · next b hb =>
      split
      · next hmay =>
        obtain ⟨h', end?, heq, _, hwithin⟩ := advance_proceeds handler pace hb hmay
        rw [heq]
        exact (hwithin.trans (within_conclude handler j h' end?)).length_eq
      · rfl
    · rfl

/-- A connection that was not there before a move was made by it. -/
theorem move_fresh (handler : Handler σ τ) {m : Move τ} (hnone : h.connection? i = none)
    (hc : (h.move handler m).connection? i = some c) :
    ∃ sizing session, m = .create sizing session ∧ c = { sizing, session } := by
  have hout : h.connections.length ≤ i.index := List.getElem?_eq_none_iff.mp hnone
  by_cases hm : ∃ sizing session, m = .create sizing session
  · obtain ⟨sizing, session, rfl⟩ := hm
    refine ⟨sizing, session, rfl, ?_⟩
    have happend : (h.connections ++ [({ sizing, session } : Connection τ)])[i.index]? = some c :=
      hc
    rw [List.getElem?_append_right hout] at happend
    obtain ⟨_, hget⟩ := List.getElem?_eq_some_iff.mp happend
    rw [← hget, List.getElem_singleton]
  · have hin := (List.getElem?_eq_some_iff.mp hc).1
    rw [length_move_of_ne_create handler fun sizing session h => hm ⟨sizing, session, h⟩] at hin
    omega

theorem written_of_none (m : Move τ) (hnone : h.connection? i = none) : h.written i m = [] := by
  unfold written
  split
  · next j data => rw [if_neg (by rw [hnone]; simp)]
  · rfl

/-- A connection stays, and what all changes keep stays with it.  Here `P S c` relates a connection
to what its peer sent so far. -/
theorem run_later {P : Bytes → Connection τ → Prop} {S : Bytes} (moves : List (Move τ))
    (hchange : ∀ S w c c', P S c → Change handler i w c c' → P (S ++ w) c')
    (hc : h.connection? i = some c) (hP : P S c) :
    ∃ c', (h.run handler moves).connection? i = some c' ∧
      P (S ++ h.writtenIn handler i moves) c' := by
  induction moves generalizing h S c with
  | nil =>
    rw [writtenIn, List.append_nil]
    exact ⟨c, hc, hP⟩
  | cons m moves ih =>
    obtain ⟨d, hd, hchanged⟩ := move_change handler m hc
    rw [writtenIn, ← List.append_assoc]
    exact ih hd (hchange _ _ _ _ hP hchanged)

/-- **What all changes keep, all runs keep.** -/
theorem run_keeps {P : Bytes → Connection τ → Prop} {moves : List (Move τ)}
    (hfresh : ∀ sizing session, Move.create sizing session ∈ moves → P [] { sizing, session })
    (hchange : ∀ S w c c', P S c → Change handler i w c c' → P (S ++ w) c')
    (hnone : h.connection? i = none) (hc : (h.run handler moves).connection? i = some c) :
    P (h.writtenIn handler i moves) c := by
  induction moves generalizing h with
  | nil =>
    rw [run, List.foldl_nil, hnone] at hc
    cases hc
  | cons m moves ih =>
    rw [writtenIn, written_of_none m hnone]
    cases hd : (h.move handler m).connection? i with
    | none =>
      exact ih (fun sizing session hm => hfresh sizing session (List.mem_cons_of_mem m hm)) hd hc
    | some d =>
      -- the connection was made just now
      obtain ⟨sizing, session, rfl, rfl⟩ := move_fresh handler hnone hd
      obtain ⟨c', hc', hP⟩ := run_later moves hchange hd (hfresh sizing session List.mem_cons_self)
      rw [run, List.foldl_cons] at hc
      rw [run, hc] at hc'
      cases hc'
      exact hP

end Hub

end ChatLobby
