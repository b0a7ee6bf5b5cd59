import ChatLobby.Hub.Advance

/-!
# What a callback does to one connection

A callback may send over any connection and ask for the end of any.  Here that is seen from one
connection: `Action.Leads i a c x c'` says that `a` may take connection `i` from `c` to `c'` and
answer `x`.  What it learns from the other connections is left open.  `Callback.Leads` is the same
for a callback that runs for connection `i`.

* `Hub.call_leads`: what a hub does with a callback of a connection, that connection can see.
* `Hub.call_touches`: any other connection is only sent over, or asked to end
  (`Connection.Touched`).
-/

namespace ChatLobby

/-! ## Sending and asking for the end

The two things that one can do to a connection from outside.  What they do depends on its phase, and
each lemma here says what they do in one of the phases, or what they leave alone in all of them.
The modules after this one use these equations and do not look at how sending is defined. -/

theorem ConnectionId.index_ne {i j : ConnectionId} (h : j ≠ i) : j.index ≠ i.index := by
  intro hindex
  apply h
  cases i
  cases j
  cases hindex
  rfl

namespace Connection

section Operations

variable {τ τ' : Type} {c : Connection τ}

/-- A connected connection takes every payload.  An empty one is accepted but not queued, and nobody
is woken for it. -/
theorem send_of_connected (h : c.phase = .connected) (data : Bytes) :
    c.send data =
      (true, { c with
        accepted := c.accepted ++ [data]
        queue := if data.isEmpty then c.queue else c.queue ++ [data]
        sender := if data.isEmpty then c.sender else c.sender.wake }) := by
  unfold send
  rw [h]
  dsimp only
  split <;> rfl

/-- Sending changes the queue, what was accepted, and what the sending side is told. -/
theorem send_eq (c : Connection τ) (data : Bytes) :
    (c.send data).2 =
      { c with
        queue := (c.send data).2.queue
        sender := (c.send data).2.sender
        accepted := (c.send data).2.accepted } := by
  by_cases h : c.phase = .connected
  · rw [send_of_connected h]
  · rw [send_of_ne h]

/-- A connection that was not started is over as soon as its end is asked for. -/
theorem disconnect_of_pending (h : c.phase = .pending) :
    c.disconnect = (true, c.enter .disconnected) := by
  unfold disconnect
  rw [h]

/-- A connected connection is only marked: it ends when it gets to it. -/
theorem disconnect_of_connected (h : c.phase = .connected) :
    c.disconnect = (true, c.enter .disconnecting) := by
  unfold disconnect
  rw [h]

/-- Asking for the end changes neither the session nor what was accepted. -/
theorem disconnect_eq (c : Connection τ) :
    c.disconnect.2.session = c.session ∧ c.disconnect.2.accepted = c.accepted ∧
      c.disconnect.2.greeted = c.greeted := by
  unfold disconnect
  split <;> exact ⟨rfl, rfl, rfl⟩

/-- The connection with another session, perhaps of another kind. -/
def withSession (c : Connection τ) (t : τ') : Connection τ' where
  sizing := c.sizing
  phase := c.phase
  trail := c.trail
  peer := c.peer
  greeted := c.greeted
  socket := c.socket
  cursor := c.cursor
  queue := c.queue
  sender := c.sender
  accepted := c.accepted
  ended := c.ended
  session := t

theorem send_withSession (c : Connection τ) (t : τ') (data : Bytes) :
    (c.withSession t).send data = ((c.send data).1, (c.send data).2.withSession t) := by
  by_cases h : c.phase = .connected
  · have h' : (c.withSession t).phase = .connected := h
    rw [send_of_connected h, send_of_connected h']
    rfl
  · have h' : (c.withSession t).phase ≠ .connected := h
    rw [send_of_ne h, send_of_ne h']

theorem disconnect_withSession (c : Connection τ) (t : τ') :
    (c.withSession t).disconnect = (c.disconnect.1, c.disconnect.2.withSession t) := by
  have h : (c.withSession t).phase = c.phase := rfl
  unfold disconnect
  rw [h]
  cases c.phase <;> rfl

/-- The connection with another receive buffer. -/
def withCursor (c : Connection τ) (cursor : Cursor) : Connection τ := { c with cursor }

theorem send_withCursor (c : Connection τ) (cursor : Cursor) (data : Bytes) :
    (c.withCursor cursor).send data = ((c.send data).1, (c.send data).2.withCursor cursor) := by
  by_cases h : c.phase = .connected
  · have h' : (c.withCursor cursor).phase = .connected := h
    rw [send_of_connected h, send_of_connected h']
    rfl
  · have h' : (c.withCursor cursor).phase ≠ .connected := h
    rw [send_of_ne h, send_of_ne h']

theorem disconnect_withCursor (c : Connection τ) (cursor : Cursor) :
    (c.withCursor cursor).disconnect = (c.disconnect.1, c.disconnect.2.withCursor cursor) := by
  have h : (c.withCursor cursor).phase = c.phase := rfl
  unfold disconnect
  rw [h]
  cases c.phase <;> rfl

end Operations

/-! ### What others do

Callbacks of other connections, rooms and whoever has a handle may send over a connection and ask
for its end, in any order and as often as they like.  `Touched` is the closure of both, so that
whatever both of them keep is kept between any two moves of the connection itself. -/

/-- `c.Touched c'`: one gets from `c` to `c'` by sending and by asking for the end. -/
inductive Touched {τ : Type} : Connection τ → Connection τ → Prop
  | refl (c) : Touched c c
  | send {c c'} (data : Bytes) : Touched (c.send data).2 c' → Touched c c'
  | disconnect {c c'} : Touched c.disconnect.2 c' → Touched c c'

namespace Touched

variable {τ τ' : Type} {c c' d : Connection τ}

theorem trans (h : c.Touched c') (h' : c'.Touched d) : c.Touched d := by
  induction h with
  | refl => exact h'
  | send data _ ih => exact .send data (ih h')
  | disconnect _ ih => exact .disconnect (ih h')

/-- What sending and asking for the end keep, any sequence of them keeps. -/
theorem keeps {P : Connection τ → Prop} (hsend : ∀ c data, P c → P (c.send data).2)
    (hdisconnect : ∀ c, P c → P c.disconnect.2) (h : c.Touched c') (hc : P c) : P c' := by
  induction h with
  | refl => exact hc
  | send data _ ih => exact ih (hsend _ data hc)
  | disconnect _ ih => exact ih (hdisconnect _ hc)

/-- Once the end is decided, there is nothing left to send or to ask for. -/
theorem eq_of_ending (h : c.Touched c') (hc : c.phase = .disconnecting ∨ c.phase = .disconnected) :
    c' = c := by
  induction h with
  | refl => rfl
  | @send c c' data _ ih =>
    -- nothing is accepted any more
    have hsame : c.send data = (false, c) := by
      apply send_of_ne
      intro hconnected
      rw [hconnected] at hc
      rcases hc with hc | hc <;> cases hc
    rw [hsame] at ih
    exact ih hc
  | @disconnect c c' _ ih =>
    rw [disconnect_of_ending hc] at ih
    exact ih hc

/-- A pending connection ends at once when that is asked for. -/
theorem of_pending (h : c.Touched c') (hc : c.phase = .pending) :
    c' = c ∨ c' = c.enter .disconnected := by
  induction h with
  | refl => exact .inl rfl
  | @send c c' data _ ih =>
    have hsame : c.send data = (false, c) := send_of_ne (by rw [hc]; decide) data
    rw [hsame] at ih
    exact ih hc
  | @disconnect c c' h _ =>
    rw [disconnect_of_pending hc] at h
    -- the connection is over now, and what follows does nothing to it
    exact .inr (h.eq_of_ending (.inr rfl))

/-- A connection that is under way is not ended by others; it has to do that by itself. -/
theorem phase_alive (h : c.Touched c') (hc : c.phase = .connected ∨ c.phase = .disconnecting) :
    c'.phase = .connected ∨ c'.phase = .disconnecting := by
  refine h.keeps (P := fun d => d.phase = .connected ∨ d.phase = .disconnecting)
    (fun d data hd => ?_) (fun d hd => ?_) hc
  · rw [send_eq]
    exact hd
  · rcases hd with hd | hd
    · rw [disconnect_of_connected hd]
      exact .inr rfl
    · rw [disconnect_of_ending (.inl hd)]
      exact .inr hd

/-- A connection that is still pending was not asked to end. -/
theorem pending_of_pending (h : c.Touched c') (hc' : c'.phase = .pending) : c.phase = .pending := by
  induction h with
  | refl => exact hc'
  | @send c c' data _ ih =>
    have hsent := ih hc'
    rw [send_eq] at hsent
    exact hsent
  | @disconnect c c' _ ih =>
    have hasked := ih hc'
    unfold Connection.disconnect at hasked
    split at hasked
    · next hpending => exact hpending
    · cases hasked
    · exact hasked
    · exact hasked

theorem withSession (h : c.Touched c') (t : τ') :
    (c.withSession t).Touched (c'.withSession t) := by
  induction h with
  | refl => exact .refl _
  | @send c c' data _ ih => exact .send data (by rwa [send_withSession])
  | disconnect _ ih => exact .disconnect (by rwa [disconnect_withSession])

theorem withCursor (h : c.Touched c') (cursor : Cursor) :
    (c.withCursor cursor).Touched (c'.withCursor cursor) := by
  induction h with
  | refl => exact .refl _
  | @send c c' data _ ih => exact .send data (by rwa [send_withCursor])
  | disconnect _ ih => exact .disconnect (by rwa [disconnect_withCursor])

/-- The parts that neither sending nor asking for the end changes. -/
theorem rest_eq (h : c.Touched c') :
    c' = { c with
      phase := c'.phase
      trail := c'.trail
      queue := c'.queue
      sender := c'.sender
      accepted := c'.accepted } := by
  induction h with
  | refl => rfl
  | @send c c' data _ ih =>
    rw [ih]
    -- what is accepted is queued; the other parts are copied either way
    by_cases hphase : c.phase = .connected
    · rw [send_of_connected hphase]
    · rw [send_of_ne hphase]
  | @disconnect c c' _ ih =>
    rw [ih]
    unfold Connection.disconnect
    split <;> rfl

theorem peer_eq (h : c.Touched c') : c'.peer = c.peer := by rw [h.rest_eq]

theorem ended_eq (h : c.Touched c') : c'.ended = c.ended := by rw [h.rest_eq]

theorem greeted_eq (h : c.Touched c') : c'.greeted = c.greeted := by rw [h.rest_eq]

theorem socket_eq (h : c.Touched c') : c'.socket = c.socket := by rw [h.rest_eq]

theorem cursor_eq (h : c.Touched c') : c'.cursor = c.cursor := by rw [h.rest_eq]

theorem session_eq (h : c.Touched c') : c'.session = c.session := by rw [h.rest_eq]

end Touched

end Connection

/-! ## Actions

An action is a tree: after each thing it does comes a branch for each answer.  `Action.Leads`
follows one path of the tree with connection `i` in view.  What is done to `i` is done to it; what
is done to another connection leaves `i` as it is and may be answered in any way.  So a statement
about all leads holds no matter what the other connections do. -/

/-- `a.Leads i c x c'`: the actions `a` may answer `x` and take connection `i` from `c` to `c'`. -/
inductive Action.Leads {α τ : Type} (i : ConnectionId) :
    Action α → Connection τ → α → Connection τ → Prop
  | done {x c} : Leads i (.done x) c x c
  | send {data next c x c'} :
      Leads i (next (c.send data).1) (c.send data).2 x c' → Leads i (.send i data next) c x c'
  | sendElsewhere {j data next c x c'} (accepted : Bool) : j ≠ i →
      Leads i (next accepted) c x c' → Leads i (.send j data next) c x c'
  | disconnect {next c x c'} :
      Leads i (next c.disconnect.1) c.disconnect.2 x c' → Leads i (.disconnect i next) c x c'
  | disconnectElsewhere {j next c x c'} (decided : Bool) : j ≠ i →
      Leads i (next decided) c x c' → Leads i (.disconnect j next) c x c'

namespace Action

variable {α β τ : Type} {i : ConnectionId} {a : Action α} {c c' : Connection τ}

/-- Along any path, a connection is only sent over and asked to end. -/
theorem Leads.touched {x : α} (h : a.Leads i c x c') : c.Touched c' := by
  induction h with
  | done => exact .refl _
  | send _ ih => exact .send _ ih
  | sendElsewhere _ _ _ ih => exact ih
  | disconnect _ ih => exact .disconnect ih
  | disconnectElsewhere _ _ _ ih => exact ih

/-- What a sequence of actions leads to, its two parts lead to. -/
theorem Leads.of_bind {f : α → Action β} {y : β} (h : (a.bind f).Leads i c y c') :
    ∃ x d, a.Leads i c x d ∧ (f x).Leads i d y c' := by
  induction a generalizing c with
  | done x => exact ⟨x, c, .done, h⟩
  | send j data next ih =>
    cases h with
    | send h =>
      obtain ⟨x, d, hx, hy⟩ := ih _ h
      exact ⟨x, d, .send hx, hy⟩
    | sendElsewhere accepted hne h =>
      obtain ⟨x, d, hx, hy⟩ := ih _ h
      exact ⟨x, d, .sendElsewhere accepted hne hx, hy⟩
  | disconnect j next ih =>
    cases h with
    | disconnect h =>
      obtain ⟨x, d, hx, hy⟩ := ih _ h
      exact ⟨x, d, .disconnect hx, hy⟩
    | disconnectElsewhere decided hne h =>
      obtain ⟨x, d, hx, hy⟩ := ih _ h
      exact ⟨x, d, .disconnectElsewhere decided hne hx, hy⟩

/-- Actions neither make connections nor remove any, so that ids stay valid. -/
theorem length_run (a : Action α) (cs : List (Connection τ)) :
    (a.run cs).2.length = cs.length := by
  induction a generalizing cs with
  | done x => rfl
  | send j data next ih =>
    rw [run]
    split
    · exact ih _ _
    · rw [ih, List.length_set]
  | disconnect j next ih =>
    rw [run]
    split
    · exact ih _ _
    · rw [ih, List.length_set]

/-- Each connection can see what actions do to it. -/
theorem run_leads (a : Action α) {cs : List (Connection τ)} (hc : cs[i.index]? = some c) :
    ∃ c', (a.run cs).2[i.index]? = some c' ∧ a.Leads i c (a.run cs).1 c' := by
  induction a generalizing cs c with
  | done x => exact ⟨c, hc, .done⟩
  | send j data next ih =>
    rw [run]
    by_cases hj : j = i
    · subst hj
      rw [hc]
      have hset : (cs.set j.index (c.send data).2)[j.index]? = some (c.send data).2 :=
        List.getElem?_set_self (List.getElem?_eq_some_iff.mp hc).1
      obtain ⟨c', hc', hleads⟩ := ih (c.send data).1 hset
      exact ⟨c', hc', .send hleads⟩
    · have hindex := ConnectionId.index_ne hj
      -- connection `i` is left alone, whatever the other one answers
      split
      · obtain ⟨c', hc', hleads⟩ := ih false hc
        exact ⟨c', hc', .sendElsewhere false hj hleads⟩
      · next d hd =>
        obtain ⟨c', hc', hleads⟩ := ih (d.send data).1
          ((List.getElem?_set_ne hindex).trans hc)
        exact ⟨c', hc', .sendElsewhere _ hj hleads⟩
  | disconnect j next ih =>
    rw [run]
    by_cases hj : j = i
    · subst hj
      rw [hc]
      have hset : (cs.set j.index c.disconnect.2)[j.index]? = some c.disconnect.2 :=
        List.getElem?_set_self (List.getElem?_eq_some_iff.mp hc).1
      obtain ⟨c', hc', hleads⟩ := ih c.disconnect.1 hset
      exact ⟨c', hc', .disconnect hleads⟩
    · have hindex := ConnectionId.index_ne hj
      split
      · obtain ⟨c', hc', hleads⟩ := ih false hc
        exact ⟨c', hc', .disconnectElsewhere false hj hleads⟩
      · next d hd =>
        obtain ⟨c', hc', hleads⟩ := ih d.disconnect.1
          ((List.getElem?_set_ne hindex).trans hc)
        exact ⟨c', hc', .disconnectElsewhere _ hj hleads⟩

end Action

/-! ## Callbacks

A callback is an action that carries two states with it: the one that all connections share and the
one that is kept for its own connection.  Only the second is seen from that connection, and it is
put back whether or not the callback breaks down. -/

/-- `callback.Leads i c r c'`: the callback, run for connection `i`, may take it from `c` to `c'`
and answer `r`; there is no answer if it breaks down. -/
def Callback.Leads {σ τ α : Type} (callback : Callback σ τ α) (i : ConnectionId)
    (c : Connection τ) (r : Option α) (c' : Connection τ) : Prop :=
  ∃ s s' t d, Action.Leads i (callback.run.run (s, c.session)) c (r, s', t) d ∧
    c' = d.withSession t

/-- A callback changes the session, and else only what sending and asking for the end change. -/
theorem Callback.Leads.touched {σ τ α : Type} {callback : Callback σ τ α} {i : ConnectionId}
    {c c' : Connection τ} {r : Option α} (h : callback.Leads i c r c') :
    (c.withSession c'.session).Touched c' := by
  obtain ⟨s, s', t, d, hleads, rfl⟩ := h
  exact hleads.touched.withSession t

namespace Hub

variable {σ τ α : Type} {h : Hub σ τ} {i j : ConnectionId} {c : Connection τ}

/-! ### In a hub

The connection that a callback runs for is led by it, and all others are touched.  This is all that
the proofs about runs know of `Hub.call`. -/

theorem connection?_modify_self (f : Connection τ → Connection τ)
    (hc : h.connection? i = some c) : (h.modify i f).connection? i = some (f c) := by
  rw [connection?] at *
  simp [modify, hc]

theorem connection?_modify_of_ne (f : Connection τ → Connection τ) (hne : j ≠ i) :
    (h.modify i f).connection? j = h.connection? j := by
  have hindex := (ConnectionId.index_ne hne).symm
  simp [connection?, modify, hindex]

theorem modify_self (h : Hub σ τ) (i : ConnectionId) : (h.modify i fun c => c) = h := by
  rw [modify, show (fun c : Connection τ => c) = id from rfl, List.modify_id]

theorem length_modify (f : Connection τ → Connection τ) :
    (h.modify i f).connections.length = h.connections.length :=
  List.length_modify _ _ _

/-- What a callback does to the hub, written out: the actions are run, and then both states are put
back. -/
theorem call_of_connection (callback : Callback σ τ α) (hc : h.connection? i = some c) :
    h.call i callback =
      ((h.act (callback.run.run (h.shared, c.session))).1.1,
        ({ (h.act (callback.run.run (h.shared, c.session))).2 with
            shared := (h.act (callback.run.run (h.shared, c.session))).1.2.1 } : Hub σ τ).modify i
          fun d =>
            { d with session := (h.act (callback.run.run (h.shared, c.session))).1.2.2 }) := by
  rw [call, hc]

/-- **A connection can see what its callback does.** -/
theorem call_leads (callback : Callback σ τ α) (hc : h.connection? i = some c) :
    ∃ c', (h.call i callback).2.connection? i = some c' ∧
      callback.Leads i c (h.call i callback).1 c' := by
  obtain ⟨d, hd, hleads⟩ := Action.run_leads (callback.run.run (h.shared, c.session)) hc
  rw [call_of_connection callback hc]
  exact ⟨_, connection?_modify_self _ hd, h.shared, _, _, d, hleads, rfl⟩

/-- All other connections are only touched. -/
theorem call_touches (callback : Callback σ τ α) (hc : h.connection? j = some c) (hne : j ≠ i) :
    ∃ c', (h.call i callback).2.connection? j = some c' ∧ c.Touched c' := by
  cases hi : h.connection? i with
  | none =>
    rw [call, hi]
    exact ⟨c, hc, .refl c⟩
  | some b =>
    obtain ⟨d, hd, hleads⟩ := Action.run_leads (callback.run.run (h.shared, b.session)) hc
    rw [call_of_connection callback hi]
    exact ⟨d, (connection?_modify_of_ne _ hne).trans hd, hleads.touched⟩

theorem length_call (callback : Callback σ τ α) :
    (h.call i callback).2.connections.length = h.connections.length := by
  cases hi : h.connection? i with
  | none => rw [call, hi]
  | some c =>
    rw [call_of_connection callback hi, length_modify]
    exact Action.length_run _ _

end Hub

end ChatLobby
