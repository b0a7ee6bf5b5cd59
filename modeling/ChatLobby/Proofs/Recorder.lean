import ChatLobby.Proofs.FrameStream
import ChatLobby.Proofs.Runs

/-!
# Recording what a handler is told

What a handler was told is nowhere in a hub.  To speak about it, a handler is made to keep a log
with the session of each connection, next to what it keeps anyway: `Handler.recorded` logs every
call with what came of it, and `PacketHandler.recorded` every frame with the verdict on it.

* `Connection.Recorded.of_leads`: a recorded callback logs what it should, and apart from that only
  sends and asks for the end.
* `Handler.Logs.log_forget`: a logged run is the run, when the logs are forgotten.
* `Handler.log_keeps`: what all changes keep is so in every logged run.
-/

namespace ChatLobby

variable {σ τ ε α : Type}

/-- What a handler keeps for a connection, and the log. -/
structure Logged (ε τ : Type) where
  /-- What the handler keeps. -/
  kept : τ
  /-- What was logged, in order. -/
  log : List ε := []

/-! ## Recorded callbacks

The log is kept where nothing but the recorder looks: sending and asking for the end do not see the
session, and the callback itself is given the session without the log.  So recording is a wrapper
that works for every callback, and no handler has to be written anew to be observed. -/

/-- The callback that logs what `note` makes of its answer. -/
def Callback.recording (note : Option α → List ε) (callback : Callback σ τ α) :
    Callback σ (Logged ε τ) α :=
  OptionT.mk fun (s, t) => do
    let (answer, s, kept) ← callback.run.run (s, t.kept)
    pure (answer, s, { kept, log := t.log ++ note answer })

namespace Connection

/-- `c.Recorded entries c'`: one gets from `c` to `c'` by logging `entries`, changing what the
handler keeps, sending, and asking for the end. -/
def Recorded (c : Connection (Logged ε τ)) (entries : List ε) (c' : Connection (Logged ε τ)) :
    Prop :=
  ∃ kept, (c.withSession ({ kept, log := c.session.log ++ entries } : Logged ε τ)).Touched c'

end Connection

theorem Action.Leads.withSession {τ' : Type} {i : ConnectionId} {a : Action α} {x : α}
    {c c' : Connection τ} (h : a.Leads i c x c') (t : τ') :
    a.Leads i (c.withSession t) x (c'.withSession t) := by
  induction h with
  | done => exact .done
  | send _ ih =>
    refine .send ?_
    rw [Connection.send_withSession]
    exact ih
  | sendElsewhere accepted hne _ ih => exact .sendElsewhere accepted hne ih
  | disconnect _ ih =>
    refine .disconnect ?_
    rw [Connection.disconnect_withSession]
    exact ih
  | disconnectElsewhere decided hne _ ih => exact .disconnectElsewhere decided hne ih

/-- A recorded callback does what the callback does, and logs what it should. -/
theorem Callback.Leads.of_recording (note : Option α → List ε) (callback : Callback σ τ α)
    {i : ConnectionId} {c c' : Connection (Logged ε τ)} {r : Option α}
    (h : (callback.recording note).Leads i c r c') :
    c'.session.log = c.session.log ++ note r ∧
      callback.Leads i (c.withSession c.session.kept) r (c'.withSession c'.session.kept) := by
  obtain ⟨s, s', t, d, hleads, rfl⟩ := h
  obtain ⟨⟨answer, s₁, kept⟩, d₁, hinner, hdone⟩ := hleads.of_bind
  cases hdone
  exact ⟨rfl, s, s', kept, d.withSession c.session.kept, hinner.withSession _, rfl⟩

/-- What a connection sees of a recorded callback. -/
theorem Connection.Recorded.of_leads (note : Option α → List ε) (callback : Callback σ τ α)
    {i : ConnectionId} {c c' : Connection (Logged ε τ)} {r : Option α}
    (h : (callback.recording note).Leads i c r c') : c.Recorded (note r) c' := by
  refine ⟨c'.session.kept, ?_⟩
  rw [← (Callback.Leads.of_recording note callback h).1]
  exact h.touched

/-- The entries come at the end of the log. -/
theorem Connection.Recorded.log_eq {entries : List ε} {c c' : Connection (Logged ε τ)}
    (h : c.Recorded entries c') : c'.session.log = c.session.log ++ entries := by
  obtain ⟨kept, htouched⟩ := h
  rw [htouched.session_eq]
  rfl

/-- Nothing that was logged is taken back. -/
theorem Connection.Recorded.log_grows {entries : List ε} {c c' : Connection (Logged ε τ)}
    (h : c.Recorded entries c') : c.session.log <+: c'.session.log := by
  rw [h.log_eq]
  exact List.prefix_append ..

theorem Connection.Recorded.cursor_eq {entries : List ε} {c c' : Connection (Logged ε τ)}
    (h : c.Recorded entries c') : c'.cursor = c.cursor := by
  obtain ⟨kept, htouched⟩ := h
  rw [htouched.cursor_eq]
  rfl

/-! ## Recorded handlers -/

/-- What a handler was told. -/
inductive Call where
  /-- The socket is attached. -/
  | connected
  /-- Bytes came; with the answer, if there was one. -/
  | received (data : Bytes) (answer : Option (Except ConnectionError Nat))
  /-- So many bytes were sent. -/
  | sent (count : Nat)
  /-- The connection has ended. -/
  | disconnected (reason : DisconnectReason)

/-- The handler that logs every call, also one that breaks down. -/
def Handler.recorded (handler : Handler σ τ) : Handler σ (Logged Call τ) where
  onConnected i := (handler.onConnected i).recording fun _ => [.connected]
  onReceived i data :=
    ExceptT.mk ((handler.onReceived i data).run.recording fun answer => [.received data answer])
  onSent i count := (handler.onSent i count).recording fun _ => [.sent count]
  onDisconnected i reason :=
    (handler.onDisconnected i reason).recording fun _ => [.disconnected reason]

/-- The handler that logs every frame, with the verdict on it. -/
def PacketHandler.recorded (handler : PacketHandler σ τ) :
    PacketHandler σ (Logged (Frame × Verdict) τ) where
  onConnected i := (handler.onConnected i).recording fun _ => []
  onPacket i frame :=
    ExceptT.mk ((handler.onPacket i frame).run.recording fun verdict => [(frame, verdict)])
  onSent i count := (handler.onSent i count).recording fun _ => []
  onDisconnected i reason := (handler.onDisconnected i reason).recording fun _ => []

section Leading

variable {handler : Handler σ τ} {i : ConnectionId} {c c' : Connection (Logged Call τ)}

theorem Connection.Recorded.of_onConnected {answer : Option Unit}
    (h : (handler.recorded.onConnected i).Leads i c answer c') : c.Recorded [.connected] c' :=
  .of_leads (fun _ => [Call.connected]) (handler.onConnected i) h

theorem Connection.Recorded.of_onReceived {data : Bytes}
    {answer : Option (Except ConnectionError Nat)}
    (h : Callback.Leads (handler.recorded.onReceived i data) i c answer c') :
    c.Recorded [.received data answer] c' :=
  .of_leads (fun answer => [Call.received data answer]) (handler.onReceived i data).run h

theorem Connection.Recorded.of_onSent {count : Nat} {answer : Option Unit}
    (h : (handler.recorded.onSent i count).Leads i c answer c') : c.Recorded [.sent count] c' :=
  .of_leads (fun _ => [Call.sent count]) (handler.onSent i count) h

theorem Connection.Recorded.of_onDisconnected {reason : DisconnectReason} {answer : Option Unit}
    (h : (handler.recorded.onDisconnected i reason).Leads i c answer c') :
    c.Recorded [.disconnected reason] c' :=
  .of_leads (fun _ => [Call.disconnected reason]) (handler.onDisconnected i reason) h

end Leading

/-- The same move, where what is kept for a connection becomes something else. -/
def Move.map {τ' : Type} (f : τ → τ') : Move τ → Move τ'
  | .create sizing session => .create sizing (f session)
  | .start i peer => .start i peer
  | .send i data => .send i data
  | .disconnect i => .disconnect i
  | .peerSends i data => .peerSends i data
  | .peerEnds i how => .peerEnds i how
  | .progress i p pace => .progress i p pace

/-- Run a handler that logs from the beginning, when there are no connections. -/
def Handler.log (handler : Handler σ (Logged ε τ)) (moves : List (Move τ)) (shared : σ) :
    Hub σ (Logged ε τ) :=
  Hub.run handler (moves.map (·.map fun kept => { kept })) { shared }

/-! ## Forgetting the log

That a recorder changes nothing is what makes statements about logs statements about the program.
The proof follows the definitions from below: sending, callbacks, what a connection does by itself,
moves, runs.  On each level, to forget before and to forget after comes to the same, which is what
the names that end in `_forget` say. -/

/-- The connection without the log. -/
def Connection.forget (c : Connection (Logged ε τ)) : Connection τ := c.withSession c.session.kept

/-- The hub without the logs. -/
def Hub.forget (h : Hub σ (Logged ε τ)) : Hub σ τ where
  connections := h.connections.map (·.forget)
  shared := h.shared

/-- `g.Logs f`: except for what it logs, the callback `g` does what `f` does. -/
def Callback.Logs (g : Callback σ (Logged ε τ) α) (f : Callback σ τ α) : Prop :=
  ∀ s t, f.run.run (s, t.kept) =
    (fun (answer, s, t) => (answer, s, t.kept)) <$> g.run.run (s, t)

/-- `g.Logs f`: except for what it logs, the handler `g` does what `f` does. -/
structure Handler.Logs (g : Handler σ (Logged ε τ)) (f : Handler σ τ) : Prop where
  onConnected : ∀ i, (g.onConnected i).Logs (f.onConnected i)
  onReceived : ∀ i data, Callback.Logs (g.onReceived i data) (f.onReceived i data)
  onSent : ∀ i count, (g.onSent i count).Logs (f.onSent i count)
  onDisconnected : ∀ i reason, (g.onDisconnected i reason).Logs (f.onDisconnected i reason)

/-- A recorded callback does what the callback does. -/
theorem Callback.logs_recording (note : Option α → List ε) (callback : Callback σ τ α) :
    (callback.recording note).Logs callback := by
  intro s t
  have hrun : (callback.recording note).run.run (s, t) =
      (fun x => (x.1, x.2.1, { kept := x.2.2, log := t.log ++ note x.1 : Logged ε τ })) <$>
        callback.run.run (s, t.kept) := by
    rw [map_eq_pure_bind]
    rfl
  rw [hrun, Functor.map_map]
  exact (id_map _).symm

/-- A recorded handler does what the handler does. -/
theorem Handler.logs_recorded (handler : Handler σ τ) : handler.recorded.Logs handler where
  onConnected i := Callback.logs_recording (fun _ => [Call.connected]) (handler.onConnected i)
  onReceived i data :=
    Callback.logs_recording (fun answer => [Call.received data answer])
      (handler.onReceived i data).run
  onSent i count := Callback.logs_recording (fun _ => [Call.sent count]) (handler.onSent i count)
  onDisconnected i reason :=
    Callback.logs_recording (fun _ => [Call.disconnected reason]) (handler.onDisconnected i reason)

theorem Callback.Logs.pure (x : α) :
    Callback.Logs (Pure.pure x : Callback σ (Logged ε τ) α) (Pure.pure x) :=
  fun _ _ => rfl

/-- Callbacks in sequence log in sequence. -/
theorem Callback.Logs.bind {β : Type} {g : Callback σ (Logged ε τ) α} {f : Callback σ τ α}
    {g' : α → Callback σ (Logged ε τ) β} {f' : α → Callback σ τ β} (h : g.Logs f)
    (h' : ∀ x, (g' x).Logs (f' x)) : Callback.Logs (g >>= g') (f >>= f') := by
  intro s t
  show (f.run.run (s, t.kept) >>= fun (answer, state) => _) = _ <$> (g.run.run (s, t) >>= _)
  rw [h s t, map_bind, bind_map_left]
  -- the first parts are the same now, and the second depend on what the first answers
  congr 1
  funext ⟨answer, s', t'⟩
  cases answer with
  | none => rfl
  | some x => exact h' x s' t'

theorem Callback.Logs.except_bind {β γ : Type}
    {g : ExceptT γ (Callback σ (Logged ε τ)) α} {f : ExceptT γ (Callback σ τ) α}
    {g' : α → ExceptT γ (Callback σ (Logged ε τ)) β} {f' : α → ExceptT γ (Callback σ τ) β}
    (h : Callback.Logs g.run f.run) (h' : ∀ x, Callback.Logs (g' x).run (f' x).run) :
    Callback.Logs (g >>= g').run (f >>= f').run := by
  show Callback.Logs (g.run >>= ExceptT.bindCont g') (f.run >>= ExceptT.bindCont f')
  refine Callback.Logs.bind h fun x => ?_
  cases x with
  | error cause => exact .pure _
  | ok x => exact h' x

/-- Cutting bytes into frames changes nothing about what is logged. -/
theorem Decoder.decode_logs (d : Decoder) (data : Bytes)
    {g : Frame → ExceptT ConnectionError (Callback σ (Logged ε τ)) Unit}
    {f : Frame → ExceptT ConnectionError (Callback σ τ) Unit}
    (h : ∀ frame, Callback.Logs (g frame).run (f frame).run) :
    Callback.Logs (d.decode data g).run (d.decode data f).run := by
  have hframes : ∀ frames : List Frame,
      Callback.Logs (frames.forM g).run (frames.forM f).run := by
    intro frames
    induction frames with
    | nil => exact .pure _
    | cons frame frames ih => exact .except_bind (h frame) fun _ => ih
  rw [decode, decode]
  refine .except_bind (hframes _) fun _ => ?_
  cases (d.scan data).fault with
  | none => exact .pure _
  | some cause => exact .pure _

/-- It makes no difference whether frames are recorded and then put on a stream, or the other way
round. -/
theorem PacketHandler.logs_framed_recorded (p : FramePolicy) (handler : PacketHandler σ τ) :
    (handler.recorded.framed p).Logs (handler.framed p) where
  onConnected i :=
    Callback.logs_recording (fun _ => ([] : List (Frame × Verdict))) (handler.onConnected i)
  onReceived i data := Decoder.decode_logs _ data fun frame =>
    Callback.logs_recording (fun verdict => [(frame, verdict)]) (handler.onPacket i frame).run
  onSent i count :=
    Callback.logs_recording (fun _ => ([] : List (Frame × Verdict))) (handler.onSent i count)
  onDisconnected i reason :=
    Callback.logs_recording (fun _ => ([] : List (Frame × Verdict)))
      (handler.onDisconnected i reason)

/-- What is made of an answer does not matter for what is done. -/
theorem Action.run_map {β : Type} (f : α → β) (a : Action α) (cs : List (Connection τ)) :
    (f <$> a).run cs = (f (a.run cs).1, (a.run cs).2) := by
  show (a.bind (done ∘ f)).run cs = _
  induction a generalizing cs with
  | done x => rfl
  | send target data next ih =>
    rw [bind, run, run]
    split
    · exact ih _ _
    · exact ih _ _
  | disconnect target next ih =>
    rw [bind, run, run]
    split
    · exact ih _ _
    · exact ih _ _

namespace Connection

variable (c : Connection (Logged ε τ))

theorem send_forget (data : Bytes) :
    c.forget.send data = ((c.send data).1, (c.send data).2.forget) := by
  have hsession : (c.send data).2.session = c.session :=
    (Touched.send data (.refl (c.send data).2)).session_eq
  rw [forget, send_withSession, forget, hsession]

theorem disconnect_forget : c.forget.disconnect = (c.disconnect.1, c.disconnect.2.forget) := by
  have hsession : c.disconnect.2.session = c.session :=
    (Touched.disconnect (.refl c.disconnect.2)).session_eq
  rw [forget, disconnect_withSession, forget, hsession]

theorem fetch_forget (pace : Pace) : c.forget.fetch pace = (c.fetch pace).map (·.forget) := by
  rw [fetch, fetch]
  dsimp only [forget, withSession]
  generalize Cursor.commit _ _ = committed
  cases committed <;> rfl

theorem start_forget (peer : SocketAddress) :
    c.forget.start peer = (c.start peer).map (·.forget) := by
  have hphase : c.forget.phase = c.phase := rfl
  rw [start, start, hphase]
  split <;> rfl

theorem peerSends_forget (data : Bytes) : c.forget.peerSends data = (c.peerSends data).forget := by
  have hpeer : c.forget.hasPeer = c.hasPeer := rfl
  rw [peerSends, peerSends, hpeer]
  split <;> rfl

theorem peerEnds_forget (how : RemoteSide) : c.forget.peerEnds how = (c.peerEnds how).forget := by
  have hpeer : c.forget.hasPeer = c.hasPeer := rfl
  rw [peerEnds, peerEnds, hpeer]
  split <;> rfl

theorem usedUp_forget (c : Connection (Logged ε τ)) (cursor : Cursor)
    (answer : Option (Except ConnectionError Nat)) :
    c.forget.usedUp cursor answer = (c.usedUp cursor answer).forget := by
  rcases answer with _ | _ | used <;> rfl

theorem shut_forget : c.forget.shut = c.shut.forget := by
  have hphase : c.forget.isConnected = c.isConnected := rfl
  rw [shut, shut, claimEnd, claimEnd, hphase]
  split <;> rfl

theorem sendOn_forget (pace : Pace) :
    c.forget.sendOn pace = ((c.sendOn pace).1, (c.sendOn pace).2.forget) := by
  have hsession : (c.sendOn pace).2.session = c.session := by rw [(c.sendsOn pace).rest_eq]
  rw [forget, sendOn_withSession, forget, hsession]

end Connection

/-- Actions do not look at logs. -/
theorem Action.run_forget (a : Action α) (cs : List (Connection (Logged ε τ))) :
    a.run (cs.map (·.forget)) = ((a.run cs).1, (a.run cs).2.map (·.forget)) := by
  induction a generalizing cs with
  | done x => rfl
  | send target data next ih =>
    rw [run, run, List.getElem?_map]
    cases cs[target.index]? with
    | none => exact ih _ _
    | some c =>
      show (next (c.forget.send data).1).run ((cs.map _).set _ (c.forget.send data).2) = _
      rw [Connection.send_forget, ← List.map_set]
      exact ih _ _
  | disconnect target next ih =>
    rw [run, run, List.getElem?_map]
    cases cs[target.index]? with
    | none => exact ih _ _
    | some c =>
      show (next c.forget.disconnect.1).run ((cs.map _).set _ c.forget.disconnect.2) = _
      rw [Connection.disconnect_forget, ← List.map_set]
      exact ih _ _

namespace Hub

variable {g : Handler σ (Logged ε τ)} {f : Handler σ τ} (h : Hub σ (Logged ε τ)) (i : ConnectionId)

theorem connection?_forget : h.forget.connection? i = (h.connection? i).map (·.forget) :=
  List.getElem?_map ..

theorem connection?_forget_of_some {h : Hub σ (Logged ε τ)} {i : ConnectionId}
    {c : Connection (Logged ε τ)} (hc : h.connection? i = some c) :
    h.forget.connection? i = some c.forget := by
  rw [connection?_forget, hc]
  rfl

theorem connection?_forget_of_none {h : Hub σ (Logged ε τ)} {i : ConnectionId}
    (hc : h.connection? i = none) : h.forget.connection? i = none := by
  rw [connection?_forget, hc]
  rfl

/-- A change of one connection can be made with or without its log. -/
theorem modify_forget {k : Connection (Logged ε τ) → Connection (Logged ε τ)}
    {k' : Connection τ → Connection τ} (hk : ∀ c, k' c.forget = (k c).forget) :
    h.forget.modify i k' = (h.modify i k).forget := by
  show ({ connections := _, shared := _ } : Hub σ τ) = { connections := _, shared := _ }
  congr 1
  -- position by position, since modifying does not commute with mapping as such
  refine List.ext_getElem? fun n => ?_
  simp only [List.getElem?_modify, forget, modify, List.getElem?_map]
  cases h.connections[n]? with
  | none => rfl
  | some c =>
    show some (if i.index = n then k' c.forget else c.forget) =
      some (if i.index = n then k c else c).forget
    split
    · exact congrArg some (hk c)
    · rfl

theorem act_forget (a : Action α) : h.forget.act a = ((h.act a).1, (h.act a).2.forget) := by
  calc h.forget.act a
    _ = ((a.run (h.connections.map (·.forget))).1,
          { connections := (a.run (h.connections.map (·.forget))).2, shared := h.shared }) := rfl
    _ = ((h.act a).1, (h.act a).2.forget) := by
      rw [Action.run_forget]
      rfl

/-- **Callbacks do not look at logs.** -/
theorem call_forget {callback : Callback σ (Logged ε τ) α} {callback' : Callback σ τ α}
    (hlogs : callback.Logs callback') :
    h.forget.call i callback' = ((h.call i callback).1, (h.call i callback).2.forget) := by
  cases hc : h.connection? i with
  | none =>
    have hc' := connection?_forget_of_none hc
    rw [call, call, hc, hc']
  | some c =>
    have hc' := connection?_forget_of_some hc
    have hrun : h.forget.act (callback'.run.run (h.shared, c.session.kept)) =
        ((fun x => (x.1, x.2.1, x.2.2.kept)) (h.act (callback.run.run (h.shared, c.session))).1,
          (h.act (callback.run.run (h.shared, c.session))).2.forget) := by
      rw [hlogs, act_forget, act, Action.run_map]
      rfl
    rw [call_of_connection _ hc, call_of_connection _ hc']
    -- the callback was run in both hubs, and only what came of it matters from here on
    generalize h.act (callback.run.run (h.shared, c.session)) = called at *
    obtain ⟨⟨answer, shared, session⟩, h'⟩ := called
    have hrun' : h.forget.act (callback'.run.run (h.forget.shared, c.forget.session)) =
      ((answer, shared, session.kept), h'.forget) := hrun
    rw [hrun']
    exact Prod.ext rfl (modify_forget ({ h' with shared } : Hub σ (Logged ε τ)) i fun _ => rfl)

theorem teardown_forget (hlogs : g.Logs f) (outcome : DisconnectReason) :
    h.forget.teardown f i outcome = (h.teardown g i outcome).forget := by
  rw [teardown, teardown, connection?_forget]
  cases h.connection? i with
  | none => rfl
  | some c =>
    dsimp only [Option.map_some]
    rw [modify_forget h i (k := Connection.shut) Connection.shut_forget,
      call_forget _ i (hlogs.onDisconnected i _)]
    exact modify_forget _ i fun _ => rfl

theorem conclude_forget (hlogs : g.Logs f) (end? : Option DisconnectReason) :
    h.forget.conclude f i end? = (h.conclude g i end?).forget := by
  cases end? with
  | none => rfl
  | some outcome => exact teardown_forget h i hlogs outcome

theorem greet_forget (hlogs : g.Logs f) : h.forget.greet f i = (h.greet g i).forget := by
  rw [greet_eq, greet_eq,
    modify_forget h i (k := fun c => { c with greeted := true }) fun _ => rfl,
    call_forget _ i (hlogs.onConnected i)]
  exact conclude_forget _ i hlogs _

theorem receive_forget (hlogs : g.Logs f) (pace : Pace) :
    h.forget.receive f pace i = (h.receive g pace i).forget := by
  cases hc : h.connection? i with
  | none =>
    have hc' := connection?_forget_of_none hc
    rw [receive, receive, hc, hc']
  | some c =>
    have hc' := connection?_forget_of_some hc
    obtain ⟨n, cursor, hfetch, -⟩ := c.fetch_spec pace
    have hfetch' : c.forget.fetch pace = .ok (c.forget.fetched n cursor) := by
      rw [Connection.fetch_forget, hfetch]
      rfl
    rw [receive_eq _ hc hfetch, receive_eq _ hc' hfetch',
      modify_forget h i (k := fun _ => c.fetched n cursor) fun _ => rfl,
      call_forget _ i (hlogs.onReceived i cursor.view)]
    dsimp only
    rw [modify_forget _ i (k := Connection.usedUp cursor _) fun c => c.usedUp_forget cursor _]
    exact conclude_forget _ i hlogs _

theorem flush_forget (hlogs : g.Logs f) (pace : Pace) :
    h.forget.flush f pace i = (h.flush g pace i).forget := by
  cases hc : h.connection? i with
  | none =>
    have hc' := connection?_forget_of_none hc
    rw [flush, flush, hc, hc']
  | some c =>
    have hc' := connection?_forget_of_some hc
    rw [flush_eq _ pace hc, flush_eq _ pace hc', c.sendOn_forget pace,
      modify_forget h i (k := fun _ => (c.sendOn pace).2) fun _ => rfl]
    dsimp only
    rcases (c.sendOn pace).1 with cause | _ | total
    · exact teardown_forget _ i hlogs _
    · rfl
    · dsimp only
      rw [call_forget _ i (hlogs.onSent i total)]
      exact conclude_forget _ i hlogs _

theorem advance_forget (hlogs : g.Logs f) (pace : Pace) (p : Progress) :
    h.forget.advance f pace i p = (h.advance g pace i p).forget := by
  cases p with
  | greet => exact greet_forget h i hlogs
  | receive => exact receive_forget h i hlogs pace
  | flush => exact flush_forget h i hlogs pace
  | obey | endOfStream | brokenOff => exact teardown_forget h i hlogs _

theorem start_forget (peer : SocketAddress) :
    h.forget.start i peer = (h.start i peer).map (·.forget) := by
  rw [start, start, connection?_forget]
  cases h.connection? i with
  | none => rfl
  | some c =>
    dsimp only [Option.map_some]
    rw [Connection.start_forget]
    cases c.start peer with
    | error cause => rfl
    | ok c => exact congrArg Except.ok (modify_forget h i fun _ => rfl)

/-- No move looks at logs. -/
theorem move_forget (hlogs : g.Logs f) (m : Move (Logged ε τ)) :
    h.forget.move f (m.map (·.kept)) = (h.move g m).forget := by
  cases m with
  | create sizing session =>
    show ({ connections := h.connections.map _ ++ _, shared := h.shared } : Hub σ τ) =
      { connections := (h.connections ++ _).map _, shared := h.shared }
    rw [List.map_append]
    rfl
  | start i peer =>
    show (h.forget.start i peer).toOption.getD h.forget = ((h.start i peer).toOption.getD h).forget
    rw [start_forget]
    cases h.start i peer <;> rfl
  | send i data => exact congrArg Prod.snd (act_forget h _)
  | disconnect i => exact congrArg Prod.snd (act_forget h _)
  | peerSends i data => exact modify_forget h i (Connection.peerSends_forget · data)
  | peerEnds i how => exact modify_forget h i (Connection.peerEnds_forget · how)
  | progress i p pace =>
    rw [Move.map, move, move, connection?_forget]
    cases h.connection? i with
    | none => rfl
    | some c =>
      -- what a connection may do depends on nothing that is kept for it
      have hmay : c.forget.MayDo p ↔ c.MayDo p := by cases p <;> rfl
      dsimp only [Option.map_some]
      rw [apply_ite Hub.forget]
      simp only [hmay, advance_forget h i hlogs pace p]

/-- A run that is logged is the run. -/
theorem run_forget (hlogs : g.Logs f) (moves : List (Move (Logged ε τ))) :
    h.forget.run f (moves.map (·.map (·.kept))) = (h.run g moves).forget := by
  induction moves generalizing h with
  | nil => rfl
  | cons m moves ih =>
    show (h.forget.move f _).run f _ = ((h.move g m).run g moves).forget
    rw [move_forget h hlogs m]
    exact ih _

theorem written_forget (m : Move (Logged ε τ)) :
    h.forget.written i (m.map (·.kept)) = h.written i m := by
  cases m with
  | peerSends j data =>
    show (if j = i ∧ (h.forget.connection? i).any (·.hasPeer) then data else []) = _
    rw [connection?_forget, written]
    cases h.connection? i <;> rfl
  | _ => rfl

theorem writtenIn_forget (hlogs : g.Logs f) (moves : List (Move (Logged ε τ))) :
    h.forget.writtenIn f i (moves.map (·.map (·.kept))) = h.writtenIn g i moves := by
  induction moves generalizing h with
  | nil => rfl
  | cons m moves ih =>
    rw [List.map_cons, writtenIn, writtenIn, written_forget, move_forget h hlogs m, ih]

end Hub

/-- The moves of a logged run are the moves of the run. -/
theorem Move.map_kept (moves : List (Move τ)) :
    (moves.map (·.map fun kept => ({ kept } : Logged ε τ))).map (·.map (·.kept)) = moves := by
  rw [List.map_map]
  refine List.map_id'' (fun m => ?_) moves
  cases m <;> rfl

/-- **A logged run is the run**, when the logs are forgotten. -/
theorem Handler.Logs.log_forget {g : Handler σ (Logged ε τ)} {f : Handler σ τ} (hlogs : g.Logs f)
    (moves : List (Move τ)) (shared : σ) :
    (g.log moves shared).forget = Hub.run f moves { shared } := by
  rw [log, ← Hub.run_forget _ hlogs, Move.map_kept]
  rfl

/-- Peers send the same in a logged run. -/
theorem Handler.Logs.writtenIn_log {g : Handler σ (Logged ε τ)} {f : Handler σ τ}
    (hlogs : g.Logs f) (i : ConnectionId) (moves : List (Move τ)) (shared : σ) :
    Hub.writtenIn g i (moves.map (·.map fun kept => { kept })) { shared } =
      Hub.writtenIn f i moves { shared } := by
  rw [← Hub.writtenIn_forget _ i hlogs, Move.map_kept]
  rfl

/-! ## Keeping something in all logged runs

The form in which all properties of logs are proved: an invariant `P S c` relates a connection, its
log included, to what its peer sent so far. -/

section Keeping

variable {handler : Handler σ (Logged ε τ)} {i : ConnectionId} {moves : List (Move τ)} {shared : σ}
  {c : Connection (Logged ε τ)}

/-- What is so for every connection with an empty log, and what all changes keep, is so in every
logged run. -/
theorem Handler.log_keeps {P : Bytes → Connection (Logged ε τ) → Prop}
    (hfresh : ∀ sizing kept, P [] { sizing, session := { kept } })
    (hchange : ∀ S w c c', P S c → Connection.Change handler i w c c' → P (S ++ w) c')
    (hc : (handler.log moves shared).connection? i = some c) :
    P (Hub.writtenIn handler i (moves.map (·.map fun kept => { kept })) { shared }) c := by
  refine Hub.run_keeps (fun sizing session hm => ?_) hchange (by simp [Hub.connection?]) hc
  obtain ⟨m, _, heq⟩ := List.mem_map.mp hm
  cases m with
  | create sizing' kept =>
    cases heq
    exact hfresh sizing kept
  | _ => cases heq

end Keeping

end ChatLobby
