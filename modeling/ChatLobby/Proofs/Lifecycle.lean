import ChatLobby.Proofs.Recorder

/-!
# The life of a connection

A connection goes through stages, and each says what its handler was told: nothing while it is
pending or not greeted, then of the beginning and of what came and went, and in the end once of the
end.  A connection whose end was asked for before its start is over at once, and nothing is told.

`Connection.Stage` is the invariant: callbacks and moves take one stage to another
(`Stage.of_touched`, `Stage.of_change`).

* `log_lifecycle`: what a connection is like in every run, and what stays so.
-/

namespace ChatLobby

variable {σ τ : Type}

/-! ## Orderly connections

What is claimed of a connection is told here by what can be seen of it: its phase, the trail of
phases it went through, its queue and the log.  The invariant that carries the proof comes below; it
has to say more, as it must be kept by every move. -/

/-- Whether bytes came or went. -/
def Call.isTransfer : Call → Bool
  | .received .. | .sent _ => true
  | .connected | .disconnected _ => false

/-- Told in order: of the beginning, of what came and went, and at most once of the end. -/
def Call.InOrder (log : List Call) : Prop :=
  log = [] ∨ ∃ transfers ending, log = .connected :: transfers ++ ending ∧
    (∀ call ∈ transfers, call.isTransfer = true) ∧
    (ending = [] ∨ ∃ reason, ending = [.disconnected reason])

namespace Connection

/-- What a connection and its log are like at any time.  It was started if it ever was
connected. -/
structure Orderly (c : Connection (Logged Call τ)) : Prop where
  trail : c.trail <+: [.connected, .disconnecting, .disconnected] ∨ c.trail = [.disconnected]
  phase_eq : c.phase = c.trail.getLastD .pending
  inOrder : Call.InOrder c.session.log
  silent : Phase.connected ∉ c.trail → c.session.log = []
  told : Phase.connected ∈ c.trail → c.next? = none → c.session.log ≠ []
  over_iff : Phase.connected ∈ c.trail →
    (c.phase = .disconnected ↔ ∃ reason, Call.disconnected reason ∈ c.session.log)
  closed : c.phase = .disconnected → c.queue = [] ∧ (∀ data, c.send data = (false, c)) ∧
    c.disconnect = (false, c) ∧ ∀ peer, c.start peer = .error .alreadyStarted

/-- `c.Precedes c'`: from `c` to `c'` the connection only went on in its life, and if it was over
before, not even that. -/
structure Precedes (c c' : Connection (Logged Call τ)) : Prop where
  trail : c.trail <+: c'.trail
  log : c.session.log <+: c'.session.log
  stays : c.phase = .disconnected →
    c'.phase = .disconnected ∧ c'.trail = c.trail ∧ c'.session.log = c.session.log

/-! ## Stages

`Stage` has a constructor for each way a connection can stand with its handler.  The phase alone is
not enough: a connection that is connected may or may not have greeted its handler, and one that is
over may or may not have been started.  There is no constructor for a connection that ended without
telling a handler that was greeted, and none in which an end is told twice. -/

/-- The end may or may not be decided, but the handler was not told of it. -/
def Alive (c : Connection (Logged Call τ)) : Prop :=
  (c.phase = .connected ∧ c.trail = [.connected]) ∨
    (c.phase = .disconnecting ∧ c.trail = [.connected, .disconnecting])

/-- The handler was told of the beginning, and not of the end. -/
structure Begun (c : Connection (Logged Call τ)) : Prop where
  alive : c.Alive
  greeted : c.greeted = true
  log : ∃ transfers, c.session.log = .connected :: transfers ∧
    ∀ call ∈ transfers, call.isTransfer = true

/-- The stages in the life of a connection. -/
inductive Stage (c : Connection (Logged Call τ)) : Prop
  | pending : c.phase = .pending → c.trail = [] → c.session.log = [] → c.queue = [] →
      c.greeted = false → Stage c
  | awaiting : c.Alive → c.greeted = false → c.session.log = [] → Stage c
  | begun : c.Begun → Stage c
  | neverBegun : c.phase = .disconnected → c.trail = [.disconnected] → c.session.log = [] →
      c.queue = [] → Stage c
  | gone (transfers : List Call) (reason : DisconnectReason) : c.phase = .disconnected →
      c.trail = [.connected, .disconnecting, .disconnected] →
      (∀ call ∈ transfers, call.isTransfer = true) →
      c.session.log = .connected :: transfers ++ [.disconnected reason] → c.queue = [] → Stage c

variable {c c' d : Connection (Logged Call τ)}

/-- Others may decide the end of a connection, but they do not carry it out. -/
theorem Alive.of_touched (h : c.Touched c') (hc : c.Alive) : c'.Alive := by
  refine h.keeps (P := Alive) (fun c data hc => ?_) (fun c hc => ?_) hc
  · rw [send_eq]
    exact hc
  · rcases hc with ⟨hphase, htrail⟩ | hc
    · rw [disconnect_of_connected hphase]
      refine .inr ⟨rfl, ?_⟩
      show c.trail ++ [.disconnecting] = _
      rw [htrail]
      rfl
    · rw [disconnect_of_ending (.inl hc.1)]
      exact .inr hc

/-- Nor do they tell its handler anything. -/
theorem Begun.of_touched (h : c.Touched c') (hc : c.Begun) : c'.Begun where
  alive := hc.alive.of_touched h
  greeted := h.greeted_eq.trans hc.greeted
  log := by
    rw [h.session_eq]
    exact hc.log

/-- What came and went may be told at any time between the beginning and the end. -/
theorem Begun.of_recorded {calls : List Call} (h : c.Recorded calls c') (hc : c.Begun)
    (hcalls : ∀ call ∈ calls, call.isTransfer = true) : c'.Begun := by
  obtain ⟨kept, htouched⟩ := h
  obtain ⟨transfers, hlog, htransfers⟩ := hc.log
  refine .of_touched htouched ⟨hc.alive, hc.greeted, transfers ++ calls, ?_, ?_⟩
  · show c.session.log ++ calls = _
    rw [hlog]
    rfl
  · intro call hcall
    rcases List.mem_append.mp hcall with hcall | hcall
    · exact htransfers call hcall
    · exact hcalls call hcall

/-- What the sending side does is not told, unless a batch is written. -/
theorem Begun.of_sendsOn {sent : Except IoError (Option Nat)} (h : c.SendsOn sent c')
    (hc : c.Begun) : c'.Begun := by
  rw [h.rest_eq]
  exact ⟨hc.alive, hc.greeted, hc.log⟩

/-- What others do takes a stage to a stage.  Only a connection that was not started goes to another
one. -/
theorem Stage.of_touched (h : c.Touched c') (hc : Stage c) : Stage c' := by
  have hgreeted' := h.greeted_eq
  have hlog' : c'.session.log = c.session.log := by rw [h.session_eq]
  cases hc with
  | pending hphase htrail hlog hqueue hgreeted =>
    rcases h.of_pending hphase with rfl | rfl
    · exact .pending hphase htrail hlog hqueue hgreeted
    · -- the end was asked for before the start, and nothing is ever told
      refine .neverBegun rfl ?_ hlog hqueue
      show c.trail ++ [.disconnected] = _
      rw [htrail]
      rfl
  | awaiting halive hgreeted hlog =>
    exact .awaiting (halive.of_touched h) (hgreeted'.trans hgreeted) (hlog'.trans hlog)
  | begun hbegun => exact .begun (hbegun.of_touched h)
  | neverBegun hphase htrail hlog hqueue =>
    rw [h.eq_of_ending (.inr hphase)]
    exact .neverBegun hphase htrail hlog hqueue
  | gone transfers reason hphase htrail htransfers hlog hqueue =>
    rw [h.eq_of_ending (.inr hphase)]
    exact .gone transfers reason hphase htrail htransfers hlog hqueue

/-- A connection that may do something by itself is not pending and not over. -/
theorem Stage.of_mayDo {p : Progress} (hc : Stage c) (hmay : c.MayDo p) :
    (c.Alive ∧ c.greeted = false ∧ c.session.log = []) ∨ c.Begun := by
  have hphase := hmay.phase_alive
  cases hc with
  | awaiting halive hgreeted hlog => exact .inl ⟨halive, hgreeted, hlog⟩
  | begun hbegun => exact .inr hbegun
  | pending hpending =>
    rw [hpending] at hphase
    rcases hphase with h | h <;> cases h
  | neverBegun hover =>
    rw [hover] at hphase
    rcases hphase with h | h <;> cases h
  | gone _ _ hover =>
    rw [hover] at hphase
    rcases hphase with h | h <;> cases h

/-- Where the handler was greeted and something may be done, it was told of the beginning. -/
theorem Stage.begun_of_greeted {p : Progress} (hc : Stage c) (hmay : c.MayDo p)
    (hgreeted : c.greeted = true) : c.Begun := by
  apply (hc.of_mayDo hmay).resolve_left
  rintro ⟨_, hnot, _⟩
  exact absurd (hgreeted.symm.trans hnot) (by decide)

/-- Where the handler may be greeted, it was told nothing yet. -/
theorem Stage.awaiting_of_mayDo (hc : Stage c) (hmay : c.MayDo .greet) :
    c.Alive ∧ c.session.log = [] := by
  rcases hc.of_mayDo hmay with ⟨halive, _, hlog⟩ | hbegun
  · exact ⟨halive, hlog⟩
  · exact absurd (hbegun.greeted.symm.trans hmay.2) (by decide)

variable {handler : Handler σ τ} {i : ConnectionId} {end? : Option DisconnectReason}
  {outcome : DisconnectReason}

/-- Whatever a connection does by itself, its handler was told of the beginning then. -/
theorem Progresses.begun (h : Progresses handler.recorded i c d end?) (hc : Stage c) : d.Begun := by
  cases h with
  | greet hmay hleads =>
    obtain ⟨halive, hlog⟩ := hc.awaiting_of_mayDo hmay
    obtain ⟨kept, htouched⟩ := Recorded.of_onConnected hleads
    refine .of_touched htouched ⟨halive, rfl, [], ?_, by simp⟩
    -- the callback may send and ask for the end, but it is told of the beginning first
    show c.session.log ++ [.connected] = _
    rw [hlog]
    rfl
  | obey hmay => exact hc.begun_of_greeted hmay hmay.2
  | endOfStream hmay => exact hc.begun_of_greeted hmay hmay.2.1
  | brokenOff hmay => exact hc.begun_of_greeted hmay hmay.2.1
  | receive hmay _ hleads _ =>
    obtain ⟨halive, hgreeted, hlog⟩ := hc.begun_of_greeted hmay hmay.2.1
    have hbegun := Begun.of_recorded (.of_onReceived hleads) ⟨halive, hgreeted, hlog⟩
      (by simp [Call.isTransfer])
    exact ⟨hbegun.alive, hbegun.greeted, hbegun.log⟩
  | receiveFails hmay _ hleads _ =>
    obtain ⟨halive, hgreeted, hlog⟩ := hc.begun_of_greeted hmay hmay.2.1
    exact .of_recorded (.of_onReceived hleads) ⟨halive, hgreeted, hlog⟩ (by simp [Call.isTransfer])
  | sends hmay _ | sendFails hmay _ =>
    exact .of_sendsOn (sendsOn ..) (hc.begun_of_greeted hmay hmay.2.1)
  | reports hmay _ hleads =>
    have hbegun := hc.begun_of_greeted hmay hmay.2.1
    exact .of_recorded (.of_onSent hleads) (.of_sendsOn (sendsOn ..) hbegun)
      (by simp [Call.isTransfer])

/-- The end is claimed once, whether or not someone asked for it before. -/
theorem Alive.claimEnd (hc : c.Alive) :
    c.claimEnd.phase = .disconnecting ∧ c.claimEnd.trail = [.connected, .disconnecting] := by
  unfold Connection.claimEnd isConnected
  rcases hc with ⟨hphase, htrail⟩ | ⟨hphase, htrail⟩
  · rw [hphase, if_pos (by decide)]
    refine ⟨rfl, ?_⟩
    show c.trail ++ [.disconnecting] = _
    rw [htrail]
    rfl
  · rw [hphase, if_neg (by decide)]
    exact ⟨hphase, htrail⟩

/-- The end of a connection, of which the handler is told. -/
theorem TornDown.stage (h : TornDown handler.recorded i outcome c c') (hc : c.Begun) :
    Stage c' := by
  obtain ⟨answer, d, hleads, rfl⟩ := h
  obtain ⟨kept, htouched⟩ := Recorded.of_onDisconnected hleads
  obtain ⟨hphase, htrail⟩ := hc.alive.claimEnd
  obtain ⟨transfers, hlog, htransfers⟩ := hc.log
  -- the last callback can neither send nor ask for the end
  rw [htouched.eq_of_ending (.inl hphase)]
  refine .gone transfers (c.reasonFor outcome) rfl ?_ htransfers ?_ rfl
  · show c.claimEnd.trail ++ [.disconnected] = _
    rw [htrail]
    rfl
  · show c.shut.session.log ++ [.disconnected (c.reasonFor outcome)] = _
    rw [shut_eq, hlog]

/-- Only a pending connection can be started. -/
theorem Stage.of_start {peer : SocketAddress} (h : c.start peer = .ok c') (hc : Stage c) :
    Stage c' := by
  unfold start at h
  split at h
  · next hphase =>
    cases h
    cases hc with
    | pending _ htrail hlog _ hgreeted =>
      refine .awaiting (.inl ⟨rfl, ?_⟩) hgreeted hlog
      show c.trail ++ [.connected] = _
      rw [htrail]
      rfl
    | awaiting halive => rcases halive with h | h <;> cases hphase.symm.trans h.1
    | begun hbegun => rcases hbegun.alive with h | h <;> cases hphase.symm.trans h.1
    | neverBegun hover => cases hphase.symm.trans hover
    | gone _ _ hover => cases hphase.symm.trans hover
  · cases h

/-- The stage does not depend on the stream. -/
theorem Stage.of_socket (socket : Socket) (hc : Stage c) : Stage { c with socket } := by
  cases hc with
  | pending hphase htrail hlog hqueue hgreeted => exact .pending hphase htrail hlog hqueue hgreeted
  | awaiting halive hgreeted hlog => exact .awaiting halive hgreeted hlog
  | begun hbegun => exact .begun ⟨hbegun.alive, hbegun.greeted, hbegun.log⟩
  | neverBegun hphase htrail hlog hqueue => exact .neverBegun hphase htrail hlog hqueue
  | gone transfers reason hphase htrail htransfers hlog hqueue =>
    exact .gone transfers reason hphase htrail htransfers hlog hqueue

/-- **Every move takes a stage to a stage.** -/
theorem Stage.of_change {w : Bytes} (h : Change handler.recorded i w c c') (hc : Stage c) :
    Stage c' := by
  cases h with
  | touched htouched => exact hc.of_touched htouched
  | started hstart => exact hc.of_start hstart
  | peerSends data _ =>
    rw [peerSends_eq]
    exact hc.of_socket _
  | peerEnds how =>
    rw [peerEnds_eq]
    exact hc.of_socket _
  | goesOn hprogresses => exact .begun (hprogresses.begun hc)
  | ends hprogresses hdown => exact hdown.stage (hprogresses.begun hc)

/-! ## Going on

A stage says what the log is like at one time.  That it only grows, and not at all once the
connection is over, is about two times and needs its own induction over the moves. -/

theorem Touched.trail_grows {c c' : Connection τ} (h : c.Touched c') : c.trail <+: c'.trail := by
  refine h.keeps (P := fun d => c.trail <+: d.trail) (fun d data hd => ?_) (fun d hd => ?_)
    (List.prefix_refl c.trail)
  · rw [send_eq]
    exact hd
  · unfold Connection.disconnect
    split
    · exact hd.trans (List.prefix_append ..)
    · exact hd.trans (List.prefix_append ..)
    · exact hd
    · exact hd

/-- A callback that is recorded goes on with the log and, at most, with the trail. -/
theorem Recorded.grows {calls : List Call} (h : c.Recorded calls c') :
    c.trail <+: c'.trail ∧ c.session.log <+: c'.session.log := by
  refine ⟨?_, h.log_grows⟩
  obtain ⟨kept, htouched⟩ := h
  exact htouched.trail_grows

theorem Progresses.grows (h : Progresses handler.recorded i c d end?) :
    c.trail <+: d.trail ∧ c.session.log <+: d.session.log := by
  cases h with
  | greet _ hleads => exact (Recorded.of_onConnected hleads).grows
  | obey | endOfStream | brokenOff => exact ⟨List.prefix_refl _, List.prefix_refl _⟩
  | receive _ _ hleads _ => exact (Recorded.of_onReceived hleads).grows
  | receiveFails _ _ hleads _ => exact (Recorded.of_onReceived hleads).grows
  | sends | sendFails =>
    rw [(sendsOn ..).rest_eq]
    exact ⟨List.prefix_refl _, List.prefix_refl _⟩
  | reports _ _ hleads =>
    have hgrows := (Recorded.of_onSent hleads).grows
    rw [(sendsOn ..).rest_eq] at hgrows
    exact hgrows

theorem TornDown.grows (h : TornDown handler.recorded i outcome c c') :
    c.trail <+: c'.trail ∧ c.session.log <+: c'.session.log := by
  obtain ⟨answer, d, hleads, rfl⟩ := h
  obtain ⟨htrail, hlog⟩ := (Recorded.of_onDisconnected hleads).grows
  have hclaimed : c.trail <+: c.claimEnd.trail := by
    unfold claimEnd
    split
    · exact List.prefix_append ..
    · exact List.prefix_refl _
  refine ⟨(hclaimed.trans htrail).trans (List.prefix_append ..), ?_⟩
  rw [shut_eq] at hlog
  exact hlog

/-- **Nothing that happened is taken back.** -/
theorem Change.grows {w : Bytes} (h : Change handler.recorded i w c c') :
    c.trail <+: c'.trail ∧ c.session.log <+: c'.session.log := by
  cases h with
  | touched htouched =>
    rw [htouched.session_eq]
    exact ⟨htouched.trail_grows, List.prefix_refl _⟩
  | started hstart =>
    unfold start at hstart
    split at hstart
    · cases hstart
      exact ⟨List.prefix_append .., List.prefix_refl _⟩
    · cases hstart
  | peerSends data _ =>
    rw [peerSends_eq]
    exact ⟨List.prefix_refl _, List.prefix_refl _⟩
  | peerEnds how =>
    rw [peerEnds_eq]
    exact ⟨List.prefix_refl _, List.prefix_refl _⟩
  | goesOn hprogresses => exact hprogresses.grows
  | ends hprogresses hdown =>
    exact ⟨hprogresses.grows.1.trans hdown.grows.1,
      hprogresses.grows.2.trans hdown.grows.2⟩

theorem Precedes.refl (c : Connection (Logged Call τ)) : c.Precedes c where
  trail := List.prefix_refl _
  log := List.prefix_refl _
  stays hover := ⟨hover, rfl, rfl⟩

theorem Precedes.change {w : Bytes} (hc : c.Precedes d) (h : Change handler.recorded i w d c') :
    c.Precedes c' where
  trail := hc.trail.trans h.grows.1
  log := hc.log.trans h.grows.2
  stays hover := by
    obtain ⟨hd, htrail, hlog⟩ := hc.stays hover
    rw [h.of_over hd]
    exact ⟨hd, htrail, hlog⟩

/-! ## Every stage is orderly -/

/-- What is told of before the end. -/
theorem not_mem_begun {transfers : List Call} (reason : DisconnectReason)
    (htransfers : ∀ call ∈ transfers, call.isTransfer = true) :
    Call.disconnected reason ∉ Call.connected :: transfers := by
  intro hmem
  rcases List.mem_cons.mp hmem with h | h
  · cases h
  · exact absurd (htransfers _ h) (by simp [Call.isTransfer])

/-- A connection that is over refuses whatever is asked of it. -/
theorem closed_of_over (hphase : c.phase = .disconnected) (hqueue : c.queue = []) :
    c.queue = [] ∧ (∀ data, c.send data = (false, c)) ∧ c.disconnect = (false, c) ∧
      ∀ peer, c.start peer = .error .alreadyStarted := by
  refine ⟨hqueue, fun data => send_of_ne (by rw [hphase]; decide) data,
    disconnect_of_ending (.inr hphase), fun peer => ?_⟩
  rw [start, hphase]

/-- While a connection is alive its end was not told. -/
theorem Alive.orderly (hc : c.Alive) (hinOrder : Call.InOrder c.session.log)
    (htold : c.next? = none → c.session.log ≠ [])
    (hnone : ∀ reason, Call.disconnected reason ∉ c.session.log) : c.Orderly := by
  have htrail : c.trail = [.connected] ∨ c.trail = [.connected, .disconnecting] :=
    hc.imp And.right And.right
  have hstarted : Phase.connected ∈ c.trail := by
    rcases htrail with h | h <;> rw [h] <;> decide
  have hnot : c.phase ≠ .disconnected := by
    rcases hc with h | h <;> rw [h.1] <;> decide
  refine ⟨.inl ?_, ?_, hinOrder, fun h => absurd hstarted h, fun _ => htold, fun _ => ⟨?_, ?_⟩,
    fun h => absurd h hnot⟩
  · rcases htrail with h | h <;> rw [h] <;> decide
  · rcases hc with h | h <;> rw [h.1, h.2] <;> rfl
  · exact fun h => absurd h hnot
  · rintro ⟨reason, hmem⟩
    exact absurd hmem (hnone reason)

/-- A connection that was not greeted is not quiet: to greet it is what comes next. -/
theorem Alive.next?_ne_none (hc : c.Alive) (hgreeted : c.greeted = false) : c.next? ≠ none := by
  unfold next?
  rcases hc with ⟨hphase, _⟩ | ⟨hphase, _⟩
  · simp [hphase, hgreeted]
  · simp [hphase, hgreeted]

theorem Begun.orderly (hc : c.Begun) : c.Orderly := by
  obtain ⟨transfers, hlog, htransfers⟩ := hc.log
  have hnone : ∀ reason, Call.disconnected reason ∉ c.session.log := by
    rw [hlog]
    exact fun reason => not_mem_begun reason htransfers
  have hinOrder : Call.InOrder c.session.log :=
    .inr ⟨transfers, [], by rw [hlog, List.append_nil], htransfers, .inl rfl⟩
  refine hc.alive.orderly hinOrder (fun _ => ?_) hnone
  rw [hlog]
  exact List.cons_ne_nil _ _

/-- Each stage gives all that is claimed of a connection. -/
theorem Stage.orderly (hc : Stage c) : c.Orderly := by
  cases hc with
  | awaiting halive hgreeted hlog =>
    -- nothing was told, but such a connection is not quiet
    refine halive.orderly (.inl hlog) (fun h => absurd h (halive.next?_ne_none hgreeted)) ?_
    rw [hlog]
    exact fun _ => List.not_mem_nil
  | begun hbegun => exact hbegun.orderly
  | pending hphase htrail hlog hqueue hgreeted =>
    have hnever : Phase.connected ∉ c.trail := by
      rw [htrail]
      decide
    refine ⟨.inl ?_, ?_, .inl hlog, fun _ => hlog, fun h => absurd h hnever,
      fun h => absurd h hnever, fun hover => ?_⟩
    · rw [htrail]
      exact List.nil_prefix
    · rw [hphase, htrail]
      rfl
    · cases hphase.symm.trans hover
  | neverBegun hphase htrail hlog hqueue =>
    have hnever : Phase.connected ∉ c.trail := by
      rw [htrail]
      decide
    refine ⟨.inr htrail, ?_, .inl hlog, fun _ => hlog, fun h => absurd h hnever,
      fun h => absurd h hnever, fun _ => closed_of_over hphase hqueue⟩
    rw [hphase, htrail]
    rfl
  | gone transfers reason hphase htrail htransfers hlog hqueue =>
    have hinOrder : Call.InOrder c.session.log :=
      .inr ⟨transfers, [.disconnected reason], hlog, htransfers, .inr ⟨reason, rfl⟩⟩
    refine ⟨.inl ?_, ?_, hinOrder, fun hnot => ?_, fun _ _ => ?_,
      fun _ => ⟨fun _ => ⟨reason, ?_⟩, fun _ => hphase⟩, fun _ => closed_of_over hphase hqueue⟩
    · exact ⟨[], (List.append_nil _).trans htrail⟩
    · rw [hphase, htrail]
      rfl
    · rw [htrail] at hnot
      exact absurd hnot (by decide)
    · rw [hlog]
      exact List.cons_ne_nil _ _
    · rw [hlog]
      exact List.mem_append_right _ (List.mem_singleton.mpr rfl)

end Connection

end ChatLobby
