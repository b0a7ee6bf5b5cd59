import ChatLobby.Proofs.Acting
import ChatLobby.Room

/-!
# Callbacks, one piece after the other

A callback is run as a whole: `Hub.call` takes the state out of the hub, runs all actions, and puts
the state back.  Here this is taken apart.  A callback of several pieces is the calls of its pieces,
one after the other (`Hub.call_bind_of_some`), and each kind of piece does one thing to the hub
(`Hub.call_setSession`, `Hub.call_perform` and so on).

A broadcast only makes connections accept payloads.  `Hub.tell` says which payloads each of them is
sent, and `Hub.act_broadcast` that a room's members are sent one for each of their entries.
-/

namespace ChatLobby

variable {σ τ α β : Type}

/-! ## Actions in sequence

What is said here of `Action.run` is about lists of connections; hubs come below. -/

namespace Action

theorem run_bind (a : Action α) (f : α → Action β) (cs : List (Connection τ)) :
    (a.bind f).run cs = (f (a.run cs).1).run (a.run cs).2 := by
  induction a generalizing cs with
  | done x => rfl
  | send target data next ih =>
    rw [bind, run, run]
    split
    · exact ih _ _
    · exact ih _ _
  | disconnect target next ih =>
    rw [bind, run, run]
    split
    · exact ih _ _
    · exact ih _ _

/-- Whatever sending and asking for the end do not look at, actions do not look at. -/
theorem run_modify {f : Connection τ → Connection τ}
    (hsend : ∀ c data, (f c).send data = ((c.send data).1, f (c.send data).2))
    (hdisconnect : ∀ c, (f c).disconnect = (c.disconnect.1, f c.disconnect.2)) (k : Nat)
    (a : Action α) (cs : List (Connection τ)) :
    a.run (cs.modify k f) = ((a.run cs).1, (a.run cs).2.modify k f) := by
  -- a changed connection may be put in before or after the change
  have hset : ∀ (cs : List (Connection τ)) (j : Nat) (c : Connection τ),
      (cs.modify k f).set j (if k = j then f c else c) = (cs.set j c).modify k f := by
    intro cs j c
    refine List.ext_getElem? fun n => ?_
    simp only [List.getElem?_set, List.getElem?_modify, List.length_modify]
    grind
  induction a generalizing cs with
  | done x => rfl
  | send target data next ih =>
    rw [run, run, List.getElem?_modify]
    cases cs[target.index]? with
    | none => exact ih _ _
    | some c =>
      have hsent : (if k = target.index then f c else c).send data =
          ((c.send data).1, if k = target.index then f (c.send data).2 else (c.send data).2) := by
        split
        · exact hsend c data
        · rfl
      show (next ((if k = target.index then f c else c).send data).1).run
        ((cs.modify k f).set target.index ((if k = target.index then f c else c).send data).2) = _
      rw [hsent, hset, ih]
  | disconnect target next ih =>
    rw [run, run, List.getElem?_modify]
    cases cs[target.index]? with
    | none => exact ih _ _
    | some c =>
      have hasked : (if k = target.index then f c else c).disconnect =
          (c.disconnect.1, if k = target.index then f c.disconnect.2 else c.disconnect.2) := by
        split
        · exact hdisconnect c
        · rfl
      show (next (if k = target.index then f c else c).disconnect.1).run
        ((cs.modify k f).set target.index (if k = target.index then f c else c).disconnect.2) = _
      rw [hasked, hset, ih]

end Action

/-! ## Sending several payloads

The order of payloads over one connection matters, and so does the end that is asked for between two
of them.  But nothing else does, so that what others do to a connection comes down to a list of
payloads and perhaps an end (`Touched.exists_sendAll`). -/

namespace Connection

variable {c : Connection τ}

/-- Send payloads, one after the other. -/
def sendAll (c : Connection τ) (payloads : List Bytes) : Connection τ :=
  payloads.foldl (fun c data => (c.send data).2) c

theorem sendAll_append (c : Connection τ) (payloads more : List Bytes) :
    c.sendAll (payloads ++ more) = (c.sendAll payloads).sendAll more :=
  List.foldl_append

theorem touched_sendAll (c : Connection τ) (payloads : List Bytes) :
    c.Touched (c.sendAll payloads) := by
  induction payloads generalizing c with
  | nil => exact .refl c
  | cons data payloads ih => exact .send data (ih _)

theorem phase_sendAll (c : Connection τ) (payloads : List Bytes) :
    (c.sendAll payloads).phase = c.phase := by
  induction payloads generalizing c with
  | nil => rfl
  | cons data payloads ih =>
    rw [sendAll, List.foldl_cons, ← sendAll, ih, send_eq]

/-- A connection accepts all payloads or none. -/
theorem accepted_sendAll (c : Connection τ) (payloads : List Bytes) :
    (c.sendAll payloads).accepted =
      c.accepted ++ if c.phase = .connected then payloads else [] := by
  induction payloads generalizing c with
  | nil => simp [sendAll]
  | cons data payloads ih =>
    have hphase : (c.send data).2.phase = c.phase := by rw [send_eq]
    rw [sendAll, List.foldl_cons, ← sendAll, ih, hphase]
    by_cases h : c.phase = .connected
    · rw [send_of_connected h]
      simp [h]
    · rw [send_of_ne h]
      simp [h]

/-- Over a connection that is not connected nothing can be sent. -/
theorem sendAll_of_ne (h : c.phase ≠ .connected) (payloads : List Bytes) :
    c.sendAll payloads = c := by
  induction payloads with
  | nil => rfl
  | cons data payloads ih =>
    rw [sendAll, List.foldl_cons, send_of_ne h]
    exact ih

/-- Payloads are known by what was accepted of them. -/
theorem sendAll_eq_of_accepted {payloads more : List Bytes}
    (h : (c.sendAll payloads).accepted = (c.sendAll more).accepted) :
    c.sendAll payloads = c.sendAll more := by
  by_cases hphase : c.phase = .connected
  · rw [accepted_sendAll, accepted_sendAll, if_pos hphase, if_pos hphase] at h
    rw [List.append_cancel_left h]
  · rw [sendAll_of_ne hphase, sendAll_of_ne hphase]

namespace Touched

variable {c' d d' : Connection τ}

/-- One gets no further than by sending payloads and then, perhaps, asking for the end. -/
theorem exists_sendAll (h : c.Touched c') :
    ∃ payloads, c' = c.sendAll payloads ∨
      c'.phase ≠ c.phase ∧ c' = (c.sendAll payloads).disconnect.2 := by
  induction h with
  | refl => exact ⟨[], .inl rfl⟩
  | @send c c' data _ ih =>
    have hphase : (c.send data).2.phase = c.phase := by rw [send_eq]
    rw [hphase] at ih
    obtain ⟨payloads, hsent⟩ := ih
    exact ⟨data :: payloads, hsent⟩
  | @disconnect c c' h _ =>
    refine ⟨[], ?_⟩
    show c' = c ∨ c'.phase ≠ c.phase ∧ c' = c.disconnect.2
    cases hphase : c.phase with
    | pending =>
      rw [disconnect_of_pending hphase] at h ⊢
      -- the end is decided, and nothing follows it
      obtain rfl := h.eq_of_ending (.inr rfl)
      exact .inr ⟨by rintro ⟨⟩, rfl⟩
    | connected =>
      rw [disconnect_of_connected hphase] at h ⊢
      obtain rfl := h.eq_of_ending (.inl rfl)
      exact .inr ⟨by rintro ⟨⟩, rfl⟩
    | disconnecting =>
      rw [disconnect_of_ending (.inl hphase)] at h
      exact .inl (h.eq_of_ending (.inl hphase))
    | disconnected =>
      rw [disconnect_of_ending (.inr hphase)] at h
      exact .inl (h.eq_of_ending (.inr hphase))

/-- **Where one gets from a connection is known** by the phase and by what was accepted. -/
theorem unique (h : c.Touched d) (h' : c.Touched d') (hphase : d.phase = d'.phase)
    (haccepted : d.accepted = d'.accepted) : d = d' := by
  obtain ⟨payloads, rfl | ⟨hne, rfl⟩⟩ := h.exists_sendAll
  · obtain ⟨more, rfl | ⟨hne', rfl⟩⟩ := h'.exists_sendAll
    · exact sendAll_eq_of_accepted haccepted
    · exact absurd (hphase.symm.trans (phase_sendAll ..)) hne'
  · obtain ⟨more, rfl | ⟨hne', rfl⟩⟩ := h'.exists_sendAll
    · exact absurd (hphase.trans (phase_sendAll ..)) hne
    · rw [(disconnect_eq _).2.1, (disconnect_eq _).2.1] at haccepted
      rw [sendAll_eq_of_accepted haccepted]

end Touched

end Connection

/-- A callback that breaks down ends there, with what was done until then. -/
theorem Callback.run_bind (a : Callback σ τ α) (f : α → Callback σ τ β) (state : σ × τ) :
    (a >>= f).run.run state =
      a.run.run state >>= fun ran =>
        ran.1.elim (pure (none, ran.2)) fun x => (f x).run.run ran.2 := by
  show (a.run.run state >>= fun ran => _) = _
  congr 1
  funext ran
  obtain ⟨answer, state⟩ := ran
  cases answer <;> rfl

namespace Hub

variable {h h' : Hub σ τ} {i j : ConnectionId} {c : Connection τ}

/-! ### Telling connections

What a room or a lobby does to a hub is to send payloads to some of its connections.  `Hub.tell` has
no order between connections, only between the payloads of each, and that is as it should be: no
connection can see when another one was sent over. -/

/-- Send every connection the payloads that are due to it. -/
def tell (h : Hub σ τ) (due : ConnectionId → List Bytes) : Hub σ τ :=
  { h with connections := h.connections.mapIdx fun k c => c.sendAll (due ⟨k⟩) }

theorem connection?_tell (h : Hub σ τ) (due : ConnectionId → List Bytes) (j : ConnectionId) :
    (h.tell due).connection? j = (h.connection? j).map (·.sendAll (due j)) :=
  List.getElem?_mapIdx

theorem tell_nil (h : Hub σ τ) : (h.tell fun _ => []) = h := by
  show ({ h with connections := h.connections.mapIdx fun _ c => c } : Hub σ τ) = h
  have hsame : (h.connections.mapIdx fun _ c => c) = h.connections :=
    List.ext_getElem? fun k => by simp
  rw [hsame]

/-- What is told later comes behind what was told before. -/
theorem tell_tell (h : Hub σ τ) (due more : ConnectionId → List Bytes) :
    (h.tell due).tell more = h.tell fun j => due j ++ more j := by
  have hconnections : ((h.tell due).tell more).connections =
      (h.tell fun j => due j ++ more j).connections := by
    simp only [tell, List.mapIdx_mapIdx, Function.comp_def, Connection.sendAll_append]
  rw [tell, Hub.mk.injEq]
  exact ⟨hconnections, rfl⟩

/-- Sending over one connection, seen from each of them. -/
theorem run_sendTo (data : Bytes) (target : ConnectionId) (cs : List (Connection τ)) :
    ((Action.sendTo target data).run cs).2 =
      cs.mapIdx fun k c => c.sendAll (if target = ⟨k⟩ then [data] else []) := by
  refine List.ext_getElem? fun k => ?_
  rw [Action.sendTo, Action.run, List.getElem?_mapIdx]
  cases target with
  | mk t =>
    dsimp only
    cases hc : cs[t]? with
    | none =>
      -- there is no such connection, and nothing happens
      show cs[k]? = _
      by_cases hk : t = k
      · subst hk
        rw [hc]
        rfl
      · simp [hk, Connection.sendAll]
    | some c =>
      show (cs.set t (c.send data).2)[k]? = _
      rw [List.getElem?_set]
      by_cases hk : t = k
      · subst hk
        obtain ⟨hlt, -⟩ := List.getElem?_eq_some_iff.mp hc
        rw [if_pos rfl, if_pos hlt, hc]
        simp [Connection.sendAll]
      · simp [hk, Connection.sendAll]

/-- Doing the same for several connections and counting is doing it for one after the other. -/
theorem act_count (h : Hub σ τ) (act : ConnectionId → Action Bool) (targets : List ConnectionId) :
    (h.act (Action.count act targets)).2 = targets.foldl (fun h i => (h.act (act i)).2) h := by
  induction targets generalizing h with
  | nil => rfl
  | cons target targets ih =>
    rw [List.foldl_cons, ← ih]
    show ({ h with connections := ((Action.count act (target :: targets)).run _).2 } : Hub σ τ) = _
    rw [Action.count, Action.run_bind, Action.run_bind]
    rfl

theorem act_sendTo_snd (h : Hub σ τ) (data : Bytes) (target : ConnectionId) :
    (h.act (Action.sendTo target data)).2 = h.tell fun j => if target = j then [data] else [] :=
  congrArg (fun connections => ({ h with connections } : Hub σ τ)) (run_sendTo data target _)

/-- A payload for each of several connections comes as often as a connection is among them. -/
theorem act_sendTo (h : Hub σ τ) (data : Bytes) (targets : List ConnectionId) :
    (h.act (Action.count (Action.sendTo · data) targets)).2 =
      h.tell fun j => List.replicate (targets.count j) data := by
  rw [act_count]
  induction targets generalizing h with
  | nil => exact (tell_nil h).symm
  | cons target targets ih =>
    rw [List.foldl_cons, act_sendTo_snd, ih, tell_tell]
    congr 1
    funext j
    rw [List.count_cons]
    by_cases hj : target = j
    · simp [hj, List.replicate_succ]
    · simp [hj]

/-- **A broadcast reaches the members of the room** but the one that is left out. -/
theorem act_broadcast (h : Hub σ τ) (r : Room) (data : Bytes) (except : Option ConnectionId) :
    (h.act (r.broadcast data except)).2 =
      h.tell fun j => List.replicate ((r.members.filter fun i => some i ≠ except).count j) data :=
  act_sendTo h data _

/-- A hub does not see where one action ends and the next begins. -/
theorem act_bind (h : Hub σ τ) (a : Action α) (f : α → Action β) :
    h.act (a >>= f) = (h.act a).2.act (f (h.act a).1) := by
  show (fun ran : β × List (Connection τ) => (ran.1, ({ h with connections := ran.2 } : Hub σ τ)))
    ((a.bind f).run h.connections) = _
  rw [Action.run_bind]
  rfl

theorem act_pure (h : Hub σ τ) (x : α) : h.act (pure x) = (x, h) := rfl

/-- The count of a broadcast is one more for each of its targets that accepts. -/
theorem act_count_cons (h : Hub σ τ) (act : ConnectionId → Action Bool) (i : ConnectionId)
    (ids : List ConnectionId) :
    h.act (Action.count act (i :: ids)) =
      (((h.act (act i)).2.act (Action.count act ids)).1 + if (h.act (act i)).1 then 1 else 0,
        ((h.act (act i)).2.act (Action.count act ids)).2) := by
  have hbind : Action.count act (i :: ids) = act i >>= fun succeeded =>
      Action.count act ids >>= fun n => pure (if succeeded then n + 1 else n) := rfl
  rw [hbind, act_bind, act_bind, act_pure]
  split <;> rfl

theorem act_discard (h : Hub σ τ) (a : Action α) : h.act (discard a) = ((), (h.act a).2) :=
  h.act_bind a fun _ => pure ()

/-! ## The pieces of a callback

The state that is kept for the connection is in the hub between two callbacks only.  So the calls of
the pieces put it back and take it out again, where the call of the whole does neither.  This makes
no difference, as actions do not look at it (`act_setSession`) and as what is put back last is what
counts (`putBack_act_setSession`). -/

/-- The hub with another session kept for a connection. -/
def setSession (h : Hub σ τ) (i : ConnectionId) (t : τ) : Hub σ τ :=
  h.modify i fun c => { c with session := t }

/-- Actions do not look at what is kept for a connection. -/
theorem act_setSession (h : Hub σ τ) (t : τ) (a : Action α) :
    (h.setSession i t).act a = ((h.act a).1, (h.act a).2.setSession i t) := by
  have hrun := Action.run_modify (f := fun c : Connection τ => { c with session := t })
    (fun c data => c.send_withSession t data) (fun c => c.disconnect_withSession t) i.index a
    h.connections
  show (fun ran : α × List (Connection τ) => (ran.1, ({ h with connections := ran.2 } : Hub σ τ)))
    (a.run (h.connections.modify i.index fun c => { c with session := t })) = _
  rw [hrun]
  rfl

theorem setSession_setSession (h : Hub σ τ) (t t' : τ) :
    (h.setSession i t).setSession i t' = h.setSession i t' := by
  simp [setSession, modify, List.modify_modify_eq, Function.comp_def]

/-- Putting back what was there changes nothing. -/
theorem setSession_self (hc : h.connection? i = some c) : h.setSession i c.session = h := by
  have hsame : h.connections.modify i.index (fun d => { d with session := c.session }) =
      h.connections := by
    refine List.ext_getElem? fun k => ?_
    rw [List.getElem?_modify]
    by_cases hk : i.index = k
    · subst hk
      rw [show h.connections[i.index]? = some c from hc]
      simp
    · simp [hk]
  rw [setSession, modify, hsame]

theorem call_pure (hc : h.connection? i = some c) (x : α) :
    h.call i (pure x : Callback σ τ α) = (some x, h) := by
  rw [call, hc]
  exact congrArg (Prod.mk (some x)) (setSession_self hc)

theorem call_shared (hc : h.connection? i = some c) :
    h.call i (Callback.shared : Callback σ τ σ) = (some h.shared, h) := by
  rw [call, hc]
  exact congrArg (Prod.mk (some h.shared)) (setSession_self hc)

theorem call_session (hc : h.connection? i = some c) :
    h.call i (Callback.session : Callback σ τ τ) = (some c.session, h) := by
  rw [call, hc]
  exact congrArg (Prod.mk (some c.session)) (setSession_self hc)

theorem call_setShared (hc : h.connection? i = some c) (s : σ) :
    h.call i (Callback.setShared s : Callback σ τ Unit) = (some (), { h with shared := s }) := by
  rw [call, hc]
  exact congrArg (Prod.mk (some ()))
    (setSession_self (h := ({ h with shared := s } : Hub σ τ)) hc)

theorem call_setSession (hc : h.connection? i = some c) (t : τ) :
    h.call i (Callback.setSession t : Callback σ τ Unit) = (some (), h.setSession i t) := by
  rw [call, hc]
  rfl

/-- A piece that acts does what its actions do, and keeps the states. -/
theorem call_perform (hc : h.connection? i = some c) (a : Action α) :
    h.call i (Callback.perform a : Callback σ τ α) = (some (h.act a).1, (h.act a).2) := by
  have hrun : ((Callback.perform a : Callback σ τ α).run.run (h.shared, c.session)) =
      a >>= fun x => pure (some x, h.shared, c.session) := by
    show ((a >>= fun x => pure (x, h.shared, c.session)) >>= fun (x, st) => pure (some x, st)) = _
    rw [bind_assoc]
    rfl
  obtain ⟨c', hc', hleads⟩ := Action.run_leads a hc
  rw [call_of_connection _ hc, hrun, act_bind, act_pure]
  -- the session was not changed, and is put back as it is
  have hsame : ((h.act a).2.setSession i c.session) = (h.act a).2 := by
    rw [← hleads.touched.session_eq]
    exact setSession_self hc'
  exact congrArg (Prod.mk (some (h.act a).1)) hsame

/-- A callback removes no connection. -/
theorem exists_connection?_of_call {callback : Callback σ τ α} {answer : Option α}
    (hc : h.connection? i = some c) (hcall : h.call j callback = (answer, h')) :
    ∃ c', h'.connection? i = some c' := by
  have hlength : h'.connections.length = h.connections.length := by
    have := h.length_call (i := j) callback
    rwa [hcall] at this
  have hlt := (List.getElem?_eq_some_iff.mp hc).1
  exact ⟨_, List.getElem?_eq_getElem (by omega)⟩

/-- What a callback answered, and the hub with the states put back that it left. -/
def putBack (i : ConnectionId) (ran : (Option α × σ × τ) × Hub σ τ) : Option α × Hub σ τ :=
  (ran.1.1, ({ ran.2 with shared := ran.1.2.1 } : Hub σ τ).setSession i ran.1.2.2)

theorem call_eq_putBack (callback : Callback σ τ α) (hc : h.connection? i = some c) :
    h.call i callback = putBack i (h.act (callback.run.run (h.shared, c.session))) :=
  call_of_connection callback hc

/-- What was put back before is not seen any more. -/
theorem putBack_act_setSession (s : σ) (t : τ) (a : Action (Option α × σ × τ)) :
    putBack i ((({ h with shared := s } : Hub σ τ).setSession i t).act a) = putBack i (h.act a) := by
  rw [act_setSession]
  exact congrArg (Prod.mk _)
    (setSession_setSession ({ (h.act a).2 with shared := (h.act a).1.2.1 } : Hub σ τ) t _)

/-- **A callback goes on where its first piece left the hub.** -/
theorem call_bind_of_some {a : Callback σ τ α} {x : α} (ha : h.call i a = (some x, h'))
    (f : α → Callback σ τ β) : h.call i (a >>= f) = h'.call i (f x) := by
  cases hc : h.connection? i with
  | none =>
    rw [call, hc] at ha
    cases ha
  | some c =>
    obtain ⟨c', hc', -⟩ := Action.run_leads (a.run.run (h.shared, c.session)) hc
    have hran : (h.act (a.run.run (h.shared, c.session))).2.connection? i = some c' := hc'
    rw [call_eq_putBack _ hc] at ha
    rw [call_eq_putBack _ hc, Callback.run_bind, act_bind]
    generalize h.act (a.run.run (h.shared, c.session)) = ran at *
    obtain ⟨⟨answer, s, t⟩, k⟩ := ran
    cases ha
    -- the second piece finds what the first one put back
    have hput : (({ k with shared := s } : Hub σ τ).setSession i t).connection? i =
        some { c' with session := t } := connection?_modify_self _ hran
    rw [call_eq_putBack _ hput]
    exact (putBack_act_setSession s t _).symm

end Hub

end ChatLobby
