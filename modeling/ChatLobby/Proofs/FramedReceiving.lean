import ChatLobby.Proofs.FrameStream
import ChatLobby.Proofs.Receiving

/-!
# Receiving frames

A handler of frames is given the frames of whatever bytes come.  However the bytes of a peer come,
that is one decode of all of them.  Each receipt is decoded on its own, and goes on where the
receipts before have ended:

```
decodeRest [] (S.take read)                    = (ok unread, frames)
decodeRest [] (S.take read ++ what was read)   = decodeRest frames (unread ++ what was read)
```

* `Judgement.follows_decode`: what a decode makes a recorded handler do is what it makes of a
  judgement that explains the log.
* `Connection.StandsInFrames.of_change`: whatever is done to a connection, its frames are those of
  one decode.
* `Hub.log_receiving`: what connections receive, in every run, as bytes and as frames.
-/

namespace ChatLobby

variable {σ τ : Type}

/-! ## Callbacks that do not ask for the end

A handler that asks for the end of its own connection while it is given frames would make the reason
of the end depend on that, and no longer on the frames.  So this is excluded for the callback that
is given a frame, and for no other. -/

/-- None of the actions asks for the end of connection `i`. -/
def Action.Spares {α : Type} (i : ConnectionId) : Action α → Prop
  | .done _ => True
  | .send _ _ next => ∀ accepted, (next accepted).Spares i
  | .disconnect target next => target ≠ i ∧ ∀ decided, (next decided).Spares i

theorem Action.Leads.phase_of_spares {α : Type} {i : ConnectionId} {a : Action α}
    {c c' : Connection τ} {x : α} (h : a.Leads i c x c') (ha : a.Spares i) :
    c'.phase = c.phase := by
  induction h with
  | done => rfl
  | send _ ih =>
    rw [ih (ha _), Connection.send_eq]
  | sendElsewhere accepted _ _ ih => exact ih (ha accepted)
  | disconnect => exact absurd rfl ha.1
  | disconnectElsewhere decided _ _ ih => exact ih (ha.2 decided)

/-- What the handler does over a frame of connection `i` does not ask for its end. -/
def PacketHandler.Spares (handler : PacketHandler σ τ) (i : ConnectionId) : Prop :=
  ∀ frame s t, ((handler.onPacket i frame).run.run.run (s, t)).Spares i

/-! ## Judging as a log says

A handler of frames may answer what it likes, depending on all that it was told before by others as
well.  But a decode of the whole stream needs to know its answers.  So the log is asked: a judgement
explains it if each verdict in it is the one that the judgement has for the frames up to then.  For
every log there is one, and the decode is done with that. -/

namespace Judgement

variable {α β : Type} {judge : Judgement} {i : ConnectionId}

/-- Every verdict in the log is that of `judge` on the frames before it. -/
def Explains (judge : Judgement) (log : List (Frame × Verdict)) : Prop :=
  ∀ before entry after, log = before ++ entry :: after →
    entry.2 = judge (before.map Prod.fst) entry.1

/-- What explains a log explains each beginning of it. -/
theorem Explains.of_longer {log log' : List (Frame × Verdict)} (h : judge.Explains log')
    (hlog : log <+: log') : judge.Explains log := by
  obtain ⟨more, rfl⟩ := hlog
  intro before entry after heq
  apply h before entry (after ++ more)
  rw [heq, List.append_assoc, List.cons_append]

/-- `judge.Follows i g f`: run for connection `i`, `g` logs frames and neither forgets any nor asks
for the end; and if `judge` explains the log, `g` answers what `f` answers, which is given the same
frames. -/
def Follows (judge : Judgement) (i : ConnectionId)
    (g : ExceptT ConnectionError (Callback σ (Logged (Frame × Verdict) τ)) α)
    (f : ExceptT ConnectionError (OptionT (StateM (List Frame))) α) : Prop :=
  ∀ c r c', Callback.Leads g i c r c' →
    c.session.log <+: c'.session.log ∧ c'.phase = c.phase ∧
      (judge.Explains c'.session.log →
        f.run.run.run (c.session.log.map Prod.fst) = (r, c'.session.log.map Prod.fst))

theorem follows_pure (x : α) :
    judge.Follows i (pure x : ExceptT ConnectionError
      (Callback σ (Logged (Frame × Verdict) τ)) α) (pure x) := by
  intro c r c' h
  obtain ⟨s, s', t, d, hleads, rfl⟩ := h
  cases hleads
  exact ⟨List.prefix_refl _, rfl, fun _ => rfl⟩

theorem follows_throw (cause : ConnectionError) :
    judge.Follows i (throw cause : ExceptT ConnectionError
      (Callback σ (Logged (Frame × Verdict) τ)) α) (throw cause) := by
  intro c r c' h
  obtain ⟨s, s', t, d, hleads, rfl⟩ := h
  cases hleads
  exact ⟨List.prefix_refl _, rfl, fun _ => rfl⟩

theorem Follows.bind {g : ExceptT ConnectionError (Callback σ (Logged (Frame × Verdict) τ)) α}
    {f : ExceptT ConnectionError (OptionT (StateM (List Frame))) α}
    {g' : α → ExceptT ConnectionError (Callback σ (Logged (Frame × Verdict) τ)) β}
    {f' : α → ExceptT ConnectionError (OptionT (StateM (List Frame))) β}
    (h : judge.Follows i g f) (h' : ∀ x, judge.Follows i (g' x) (f' x)) :
    judge.Follows i (g >>= g') (f >>= f') := by
  intro c r c' hbind
  obtain ⟨s, s', t, d, hleads, rfl⟩ := hbind
  obtain ⟨⟨r₁, s₁, t₁⟩, d₁, hfirst, hsecond⟩ := hleads.of_bind
  obtain ⟨hlog, hphase, hrun⟩ := h c r₁ (d₁.withSession t₁) ⟨s, s₁, t₁, d₁, hfirst, rfl⟩
  rcases r₁ with _ | cause | x
  · -- the first part broke down or failed, and the second one was not run
    cases hsecond
    refine ⟨hlog, hphase, fun hexplains => ?_⟩
    rw [run_bind, hrun hexplains]
  · cases hsecond
    refine ⟨hlog, hphase, fun hexplains => ?_⟩
    rw [run_bind, hrun hexplains]
  · -- the second part starts with the session that the first part has left
    obtain ⟨hlog', hphase', hrun'⟩ := h' x (d₁.withSession t₁) r ((d.withSession t₁).withSession t)
      ⟨s₁, s', t, d.withSession t₁, hsecond.withSession t₁, rfl⟩
    refine ⟨hlog.trans hlog', hphase'.trans hphase, fun hexplains => ?_⟩
    rw [run_bind, hrun (hexplains.of_longer hlog')]
    exact hrun' hexplains

/-- The recorded handler follows the judgement over one frame: this is what the log is for. -/
theorem follows_onPacket {handler : PacketHandler σ τ} (hspares : handler.Spares i)
    (frame : Frame) :
    judge.Follows i (handler.recorded.onPacket i frame) (judge.onFrame frame) := by
  intro c r c' h
  obtain ⟨hlog, s, s', t, d, hleads, heq⟩ := Callback.Leads.of_recording
    (fun verdict => [(frame, verdict)]) (handler.onPacket i frame).run h
  have hphase : c'.phase = d.phase := congrArg Connection.phase heq
  refine ⟨?_, hphase.trans (hleads.phase_of_spares (hspares frame s _)), fun hexplains => ?_⟩
  · rw [hlog]
    exact List.prefix_append ..
  · have hverdict := hexplains c.session.log (frame, r) [] hlog
    rw [hlog, List.map_append]
    show (judge (c.session.log.map Prod.fst) frame, _) = _
    rw [← hverdict]
    rfl

/-- **One decode**, whose frames the handler judges. -/
theorem follows_decode (judge : Judgement) {handler : PacketHandler σ τ}
    (hspares : handler.Spares i) (d : Decoder) (data : Bytes) :
    judge.Follows i (d.decode data (handler.recorded.onPacket i))
      (d.decode data judge.onFrame) := by
  have hframes : ∀ frames : List Frame, judge.Follows i
      (frames.forM (handler.recorded.onPacket i)) (frames.forM judge.onFrame) := by
    intro frames
    induction frames with
    | nil => exact follows_pure ()
    | cons frame frames ih => exact (follows_onPacket hspares frame).bind fun _ => ih
  rw [Decoder.decode, Decoder.decode]
  apply (hframes _).bind
  intro _
  cases (d.scan data).fault with
  | none => exact follows_pure _
  | some cause => exact follows_throw _

end Judgement

/-! ## Why a connection ends

The frames give a reason if a verdict on them is not good.  There are others, and they may come at
any time.  What is excluded is that a connection ends for the reason of a frame which the decode of
the whole stream would let pass. -/

/-- The reason for the end that comes of a verdict, if any. -/
def reasonOf : Verdict → Option DisconnectReason
  | none => some (.ofError .handlerPanicked)
  | some (.error cause) => some (.ofError cause)
  | some (.ok ()) => none

/-- A good verdict is no reason to end. -/
theorem reasonOf_eq_none_iff {verdict : Verdict} :
    reasonOf verdict = none ↔ verdict = some (.ok ()) := by
  rcases verdict with _ | _ | ⟨⟨⟩⟩
  · simp [reasonOf]
  · simp [reasonOf]
  · simp [reasonOf]

/-- The end has nothing to do with what was received: someone asked for it, the stream broke off, or
the handler broke down over something else than a frame. -/
def DisconnectReason.Interrupts (reason : DisconnectReason) : Prop :=
  reason = .requested ∨ reason = .ofError .handlerPanicked ∨ ∃ cause, reason = .ofError (.io cause)

/-- `Ended verdict finished reason`: the reason is that of the verdict on the frames; or the verdict
is good, and the peer is finished, or the connection was interrupted. -/
inductive Ended (verdict : Verdict) (finished : Prop) : DisconnectReason → Prop
  | frames {reason} : reasonOf verdict = some reason → Ended verdict finished reason
  | peer : reasonOf verdict = none → finished → Ended verdict finished .peerClosed
  | interrupted {reason} : reasonOf verdict = none → reason.Interrupts →
      Ended verdict finished reason

/-- As long as the peer was not finished, it does not matter what that means. -/
theorem Ended.of_not_finished {verdict : Verdict} {finished finished' : Prop}
    {reason : DisconnectReason} (h : Ended verdict finished reason) (hnot : ¬finished) :
    Ended verdict finished' reason := by
  cases h with
  | frames hreason => exact .frames hreason
  | peer _ hfinished => exact absurd hfinished hnot
  | interrupted hok hinterrupts => exact .interrupted hok hinterrupts

namespace Connection

/-! ## What a connection holds of the frames

As with bytes, there is an invariant for what was read so far.  The outcome of the decode has the
unread bytes in it, which are those in the receive buffer, as long as the connection goes on. -/

/-- The frames that the handler was given. -/
def frames (c : Connection (Logged (Frame × Verdict) τ)) : List Frame := c.session.log.map Prod.fst

/-- `c.Decodes judge d S read outcome`: of `S`, which its peer sent, the connection has read the
first `read` bytes, and what came of them is what comes of one decode. -/
structure Decodes (c : Connection (Logged (Frame × Verdict) τ)) (judge : Judgement) (d : Decoder)
    (S : Bytes) (read : Nat) (outcome : Option (Except ConnectionError Bytes)) : Prop where
  le_length : read ≤ S.length
  inbound : c.socket.inbound = S.drop read
  decode : judge.decodeRest d [] (S.take read) = (outcome, c.frames)

/-- `c.EndsBy S read outcome reason`: `reason` is why the connection ends after `outcome`. -/
def EndsBy (c : Connection (Logged (Frame × Verdict) τ)) (S : Bytes) (read : Nat)
    (outcome : Option (Except ConnectionError Bytes)) (reason : DisconnectReason) : Prop :=
  Ended (verdictOf outcome) (read = S.length ∧ c.socket.remote ≠ .open) reason

variable {c c' b : Connection (Logged (Frame × Verdict) τ)} {judge : Judgement} {p : FramePolicy}
  {S : Bytes} {read : Nat} {outcome : Option (Except ConnectionError Bytes)}

theorem Decodes.of_touched {d : Decoder} (h : c.Touched c')
    (hc : c.Decodes judge d S read outcome) : c'.Decodes judge d S read outcome := by
  refine ⟨hc.le_length, ?_, ?_⟩
  · rw [h.socket_eq]
    exact hc.inbound
  · rw [frames, h.session_eq]
    exact hc.decode

/-- Callbacks that are given no frame. -/
theorem Decodes.of_recorded {d : Decoder} (h : c.Recorded [] c')
    (hc : c.Decodes judge d S read outcome) : c'.Decodes judge d S read outcome := by
  obtain ⟨kept, htouched⟩ := h
  apply Decodes.of_touched htouched
  refine ⟨hc.le_length, hc.inbound, hc.decode.trans ?_⟩
  show (outcome, c.session.log.map Prod.fst) = (outcome, (c.session.log ++ []).map Prod.fst)
  rw [List.append_nil]

variable {handler : PacketHandler σ τ} {i : ConnectionId} {end? : Option DisconnectReason}

/-! ### Callbacks that are given no frame

They are recorded with nothing in the log, and go on with no decode. -/

theorem Recorded.of_framed_onConnected {answer : Option Unit}
    (h : ((handler.recorded.framed p).onConnected i).Leads i c answer c') : c.Recorded [] c' :=
  .of_leads (fun _ => ([] : List (Frame × Verdict))) (handler.onConnected i) h

theorem Recorded.of_framed_onSent {count : Nat} {answer : Option Unit}
    (h : ((handler.recorded.framed p).onSent i count).Leads i c answer c') : c.Recorded [] c' :=
  .of_leads (fun _ => ([] : List (Frame × Verdict))) (handler.onSent i count) h

theorem Recorded.of_framed_onDisconnected {reason : DisconnectReason} {answer : Option Unit}
    (h : ((handler.recorded.framed p).onDisconnected i reason).Leads i c answer c') :
    c.Recorded [] c' :=
  .of_leads (fun _ => ([] : List (Frame × Verdict))) (handler.onDisconnected i reason) h

/-! ### Receipts

The step of the induction.  That a receipt goes on where the last one ended is
`Judgement.decodeRest_append_of_ok`; what is new is that the handler sees each receipt alone. -/

/-- A receipt goes on with the decode. -/
theorem Decodes.of_receipt {n : Nat} {cursor : Cursor}
    {answer : Option (Except ConnectionError Nat)} (hspares : handler.Spares i)
    (hfetches : c.Fetches n cursor)
    (hleads : Callback.Leads ((handler.recorded.framed p).onReceived i cursor.view) i
      (c.fetched n cursor) answer c')
    (hexplains : judge.Explains c'.session.log)
    (hc : c.Decodes judge (.ofPolicy p) S read (some (.ok c.cursor.view))) :
    c'.Decodes judge (.ofPolicy p) S (read + n) (answer.map (·.map cursor.view.drop)) ∧
      c'.phase = c.phase ∧ ∀ used, answer = some (.ok used) → used ≤ cursor.readable := by
  obtain ⟨hlog, hphase, hrun⟩ :=
    Judgement.follows_decode judge hspares (.ofPolicy p) cursor.view _ _ _ hleads
  have hdecode := hrun hexplains
  have hle := hfetches.le_length
  have hlength := hc.le_length
  rw [hc.inbound, List.length_drop] at hle
  refine ⟨⟨by omega, ?_, ?_⟩, hphase, fun used hused => ?_⟩
  · rw [hleads.touched.socket_eq]
    show c.socket.inbound.drop n = _
    rw [hc.inbound, List.drop_drop]
  · -- the decode of what was read before goes on with what is read now
    have hsplit : S.take (read + n) = S.take read ++ (S.drop read).take n := List.take_add
    rw [hsplit, Judgement.decodeRest_append_of_ok hc.decode, ← hc.inbound, ← hfetches.view_eq,
      Judgement.decodeRest_eq_run]
    have hrun' : ((Decoder.ofPolicy p).decode cursor.view judge.onFrame).run.run.run c.frames =
      (answer, c'.frames) := hdecode
    rw [hrun']
  · rw [hused] at hdecode
    rw [← Cursor.length_view]
    exact Judgement.used_le hdecode

/-- Whatever interrupts a connection, if it was not asked to end before, interrupts it. -/
theorem endsBy_of_interrupts {reason : DisconnectReason} (h : reason.Interrupts) (x : Bytes) :
    c.EndsBy S read (some (.ok x)) (c.reasonFor reason) := by
  apply Ended.interrupted rfl
  unfold reasonFor
  split
  · exact h
  · exact .inl rfl

/-- A callback that breaks down interrupts the connection. -/
theorem interrupts_of_breakdown {answer : Option Unit} {reason : DisconnectReason}
    (h : breakdown? answer = some reason) : reason.Interrupts := by
  unfold breakdown? at h
  split at h
  · cases h
  · cases h
    exact .inr (.inl rfl)

/-- What a handler answers to a receipt ends the connection for the reason that its frames give. -/
theorem reasonOf_of_receiptFailure {available : Nat} {answer : Option (Except ConnectionError Nat)}
    {cause : ConnectionError} (rest : Nat → Bytes)
    (h : receiptFailure? available answer = some cause)
    (hle : ∀ used, answer = some (.ok used) → used ≤ available) :
    reasonOf (verdictOf (answer.map (·.map rest))) = some (.ofError cause) := by
  rcases answer with _ | cause' | used
  · cases h
    rfl
  · cases h
    rfl
  · have hused := hle used rfl
    rw [receiptFailure?, if_neg (by omega)] at h
    cases h

/-- Whatever a connection does by itself: it goes on with the decode, or ends for a reason. -/
theorem Progresses.decodes (hspares : handler.Spares i)
    (h : Progresses (handler.recorded.framed p) i c b end?)
    (hexplains : judge.Explains b.session.log)
    (hc : c.Decodes judge (.ofPolicy p) S read (some (.ok c.cursor.view))) :
    ∃ read' outcome', b.Decodes judge (.ofPolicy p) S read' outcome' ∧
      (end? = none → outcome' = some (.ok b.cursor.view)) ∧
      ∀ reason, end? = some reason → b.EndsBy S read' outcome' (b.reasonFor reason) := by
  cases h with
  | greet _ hleads =>
    have hrecorded := Recorded.of_framed_onConnected hleads
    refine ⟨read, _, .of_recorded hrecorded ⟨hc.le_length, hc.inbound, hc.decode⟩, fun _ => ?_,
      fun reason hreason => endsBy_of_interrupts (interrupts_of_breakdown hreason) _⟩
    rw [hrecorded.cursor_eq]
  | obey =>
    refine ⟨read, _, hc, fun _ => rfl, fun reason hreason => ?_⟩
    cases hreason
    exact endsBy_of_interrupts (.inl rfl) _
  | endOfStream hmay =>
    refine ⟨read, _, hc, fun _ => rfl, fun reason hreason => ?_⟩
    cases hreason
    obtain ⟨hconnected, _, hempty, hfinished⟩ := hmay
    have hreason : c.reasonFor .peerClosed = .peerClosed :=
      if_pos (by simp [isConnected, hconnected])
    have hread : read = S.length := by
      have hinbound := hc.inbound
      rw [hempty] at hinbound
      have := List.drop_eq_nil_iff.mp hinbound.symm
      have := hc.le_length
      omega
    rw [hreason]
    apply Ended.peer rfl
    exact ⟨hread, by rw [hfinished]; decide⟩
  | brokenOff =>
    refine ⟨read, _, hc, fun _ => rfl, fun reason hreason => ?_⟩
    cases hreason
    exact endsBy_of_interrupts (.inr (.inr ⟨_, rfl⟩)) _
  | receive hmay hfetches hleads hconsume =>
    obtain ⟨hdecodes, _, _⟩ := hc.of_receipt hspares hfetches hleads hexplains
    refine ⟨_, _, ⟨hdecodes.le_length, hdecodes.inbound, hdecodes.decode⟩, fun _ => ?_,
      fun _ h => (nomatch h)⟩
    exact congrArg (fun rest => some (Except.ok rest)) (Cursor.view_consume hconsume).symm
  | receiveFails hmay hfetches hleads hfailure =>
    obtain ⟨hdecodes, hphase, hle⟩ := hc.of_receipt hspares hfetches hleads hexplains
    refine ⟨_, _, hdecodes, fun h => (nomatch h), fun reason hreason => ?_⟩
    cases hreason
    -- nobody has asked for the end, not even the handler
    have hconnected : b.isConnected = true := by simp [isConnected, hphase, hmay.1]
    rw [reasonFor, if_pos hconnected]
    exact .frames (reasonOf_of_receiptFailure _ hfailure hle)
  | sends =>
    rw [(sendsOn ..).rest_eq]
    exact ⟨read, _, ⟨hc.le_length, hc.inbound, hc.decode⟩, fun _ => rfl, fun _ h => nomatch h⟩
  | reports _ _ hleads =>
    have hrecorded := Recorded.of_framed_onSent hleads
    rw [(sendsOn ..).rest_eq] at hrecorded
    refine ⟨read, _, .of_recorded hrecorded ⟨hc.le_length, hc.inbound, hc.decode⟩, fun _ => ?_,
      fun reason hreason => endsBy_of_interrupts (interrupts_of_breakdown hreason) _⟩
    rw [hrecorded.cursor_eq]
  | sendFails =>
    rw [(sendsOn ..).rest_eq]
    refine ⟨read, _, ⟨hc.le_length, hc.inbound, hc.decode⟩, fun h => (nomatch h),
      fun reason hreason => ?_⟩
    cases hreason
    exact endsBy_of_interrupts (.inr (.inr ⟨_, rfl⟩)) _

/-- The end decodes nothing more, and notes its reason. -/
theorem TornDown.decodes {reason : DisconnectReason}
    (h : TornDown (handler.recorded.framed p) i reason c c') {d : Decoder}
    (hc : c.Decodes judge d S read outcome) :
    c'.Decodes judge d S read outcome ∧ c'.phase = .disconnected ∧ c'.peer = c.peer ∧
      c'.socket.remote = c.socket.remote ∧ c'.ended = some (c.reasonFor reason) := by
  obtain ⟨answer, b, hleads, rfl⟩ := h
  have htouched := hleads.touched
  have hrecorded := Recorded.of_framed_onDisconnected hleads
  rw [shut_eq] at hrecorded htouched
  have hb : b.Decodes judge d S read outcome :=
    .of_recorded hrecorded ⟨hc.le_length, hc.inbound, hc.decode⟩
  refine ⟨⟨hb.le_length, hb.inbound, hb.decode⟩, rfl, htouched.peer_eq, ?_, rfl⟩
  show b.socket.remote = _
  rw [htouched.socket_eq]
  rfl

/-- Where a connection stands in the frames of what its peer sent. -/
structure StandsInFrames (judge : Judgement) (d : Decoder) (S : Bytes)
    (c : Connection (Logged (Frame × Verdict) τ)) (read : Nat)
    (outcome : Option (Except ConnectionError Bytes)) : Prop where
  decodes : c.Decodes judge d S read outcome
  alive : c.phase ≠ .disconnected → c.ended = none ∧ outcome = some (.ok c.cursor.view)
  pending : c.phase = .pending → c.cursor.view = [] ∧ c.peer = none
  alone : c.peer = none → S = [] ∧ c.ended = none ∧ (c.phase = .pending ∨ c.phase = .disconnected)
  gone : c.phase = .disconnected → c.peer ≠ none →
    ∃ reason, c.ended = some reason ∧ c.EndsBy S read outcome reason

theorem open_of_hasPeer {c : Connection τ} (h : c.hasPeer = true) :
    c.peer ≠ none ∧ c.socket.remote = .open := by
  simpa [hasPeer, Option.isSome_iff_ne_none] using h

theorem standsInFrames_fresh (judge : Judgement) (d : Decoder) (sizing : ReceiveSizing) (kept : τ) :
    StandsInFrames judge d [] { sizing, session := { kept } } 0 (some (.ok [])) where
  decodes := ⟨Nat.le_refl 0, rfl, Judgement.decodeRest_of_incomplete d.head_nil⟩
  alive _ := ⟨rfl, by rw [Cursor.view_ofCapacity]⟩
  pending _ := ⟨Cursor.view_ofCapacity 0, rfl⟩
  alone _ := ⟨rfl, rfl, .inl rfl⟩
  gone hover := nomatch hover

/-- Whatever the peer sends more is not read yet. -/
theorem StandsInFrames.of_peerSends {d : Decoder} {data : Bytes} (hpeer : c.hasPeer = true)
    (hc : StandsInFrames judge d S c read outcome) :
    StandsInFrames judge d (S ++ data) (c.peerSends data) read outcome := by
  have hle := hc.decodes.le_length
  obtain ⟨hsome, hopen⟩ := open_of_hasPeer hpeer
  have hinbound : (c.peerSends data).socket.inbound = c.socket.inbound ++ data := by
    rw [Connection.peerSends, if_pos hpeer]
  have hdrop : c.socket.inbound ++ data = (S ++ data).drop read := by
    rw [hc.decodes.inbound, List.drop_append_of_le_length hle]
  have htake : (S ++ data).take read = S.take read := List.take_append_of_le_length hle
  rw [peerSends_eq]
  refine ⟨⟨?_, hinbound.trans hdrop, ?_⟩, hc.alive, hc.pending, fun h => absurd h hsome,
    fun hover _ => ?_⟩
  · rw [List.length_append]
    omega
  · rw [htake]
    exact hc.decodes.decode
  · obtain ⟨reason, hended, hends⟩ := hc.gone hover hsome
    -- a peer that sends was not finished
    exact ⟨reason, hended, Ended.of_not_finished hends fun hfinished => hfinished.2 hopen⟩

theorem StandsInFrames.of_peerEnds {d : Decoder} {how : RemoteSide}
    (hc : StandsInFrames judge d S c read outcome) :
    StandsInFrames judge d S (c.peerEnds how) read outcome := by
  by_cases hpeer : c.hasPeer = true
  · obtain ⟨_, hopen⟩ := open_of_hasPeer hpeer
    have hinbound : (c.peerEnds how).socket.inbound = c.socket.inbound := by
      rw [Connection.peerEnds, if_pos hpeer]
    rw [peerEnds_eq]
    refine ⟨⟨hc.decodes.le_length, hinbound.trans hc.decodes.inbound, hc.decodes.decode⟩, hc.alive,
      hc.pending, hc.alone, fun hover hsome => ?_⟩
    obtain ⟨reason, hended, hends⟩ := hc.gone hover hsome
    exact ⟨reason, hended, Ended.of_not_finished hends fun hfinished => hfinished.2 hopen⟩
  · rw [Connection.peerEnds, if_neg hpeer]
    exact hc

/-- Others cannot end a connection that has a peer. -/
theorem StandsInFrames.of_touched {d : Decoder} (h : c.Touched c')
    (hc : StandsInFrames judge d S c read outcome) :
    StandsInFrames judge d S c' read outcome := by
  by_cases hover : c.phase = .disconnected
  · rw [h.eq_of_ending (.inr hover)]
    exact hc
  · obtain ⟨hended, houtcome⟩ := hc.alive hover
    refine ⟨hc.decodes.of_touched h, fun _ => ?_, fun hpending => ?_, fun hnone => ?_,
      fun hover' hsome => ?_⟩
    · rw [h.ended_eq, h.cursor_eq]
      exact ⟨hended, houtcome⟩
    · rw [h.cursor_eq, h.peer_eq]
      exact hc.pending (h.pending_of_pending hpending)
    · rw [h.peer_eq] at hnone
      obtain ⟨hS, _, hphase⟩ := hc.alone hnone
      refine ⟨hS, h.ended_eq.trans hended, ?_⟩
      rcases h.of_pending (hphase.resolve_right hover) with rfl | rfl
      · exact hphase
      · exact .inr rfl
    · -- only a pending connection ends at once, and that has no peer
      rw [h.peer_eq] at hsome
      cases hphase : c.phase with
      | pending => exact absurd (hc.pending hphase).2 hsome
      | disconnected => exact absurd hphase hover
      | connected =>
        rcases h.phase_alive (.inl hphase) with h | h <;> cases hover'.symm.trans h
      | disconnecting =>
        rcases h.phase_alive (.inr hphase) with h | h <;> cases hover'.symm.trans h

theorem StandsInFrames.of_start {d : Decoder} {peer : SocketAddress} (h : c.start peer = .ok c')
    (hc : StandsInFrames judge d S c read outcome) :
    StandsInFrames judge d S c' read outcome := by
  unfold start at h
  split at h
  · next hphase =>
    cases h
    obtain ⟨hended, houtcome⟩ := hc.alive (by rw [hphase]; decide)
    have hview : c.cursor.view = (Cursor.ofCapacity c.sizing.bufferSize).view := by
      rw [(hc.pending hphase).1, Cursor.view_ofCapacity]
    rw [hview] at houtcome
    exact ⟨⟨hc.decodes.le_length, hc.decodes.inbound, hc.decodes.decode⟩,
      fun _ => ⟨hended, houtcome⟩, fun h => (nomatch h), fun h => (nomatch h), fun h => (nomatch h)⟩
  · cases h

/-! ## Every move

All of the above comes together here.  The log of a later time explains that of an earlier one, so
that the assumption about it is made once, at the end of the run. -/

theorem Progresses.log_grows (hspares : handler.Spares i)
    (h : Progresses (handler.recorded.framed p) i c b end?) : c.session.log <+: b.session.log := by
  cases h with
  | obey | endOfStream | brokenOff => exact List.prefix_refl _
  | greet _ hleads => exact (Recorded.of_framed_onConnected hleads).log_grows
  | sends | sendFails =>
    rewrite [(sendsOn ..).rest_eq]
    exact List.prefix_refl _
  | reports _ _ hleads =>
    have hgrows := (Recorded.of_framed_onSent hleads).log_grows
    rw [(sendsOn ..).rest_eq] at hgrows
    exact hgrows
  | receive _ _ hleads =>
    exact (Judgement.follows_decode (fun _ _ => none) hspares _ _ _ _ _ hleads).1
  | receiveFails _ _ hleads =>
    exact (Judgement.follows_decode (fun _ _ => none) hspares _ _ _ _ _ hleads).1

theorem TornDown.log_eq {reason : DisconnectReason}
    (h : TornDown (handler.recorded.framed p) i reason c c') : c'.session.log = c.session.log := by
  obtain ⟨answer, b, hleads, rfl⟩ := h
  have hlog := (Recorded.of_framed_onDisconnected hleads).log_eq
  rw [shut_eq, List.append_nil] at hlog
  exact hlog

/-- A connection that does something by itself has a peer. -/
theorem StandsInFrames.peer_of_progresses {d : Decoder} {g : Handler σ (Logged (Frame × Verdict) τ)}
    (hc : StandsInFrames judge d S c read outcome) (h : Progresses g i c b end?) :
    b.peer ≠ none := by
  intro hnone
  obtain ⟨p, hmay⟩ := h.exists_mayDo
  obtain ⟨_, _, hphase⟩ := hc.alone (h.peer_eq.1.symm.trans hnone)
  rcases hmay.phase_alive with halive | halive <;> rw [halive] at hphase <;>
    rcases hphase with h | h <;> cases h

/-- **Every move** leaves a connection standing somewhere in the frames of what its peer sent, as
long as the log is explained. -/
theorem StandsInFrames.of_change {w : Bytes} (hspares : handler.Spares i)
    (h : Change (handler.recorded.framed p) i w c c')
    (hc : judge.Explains c.session.log →
      ∃ read outcome, StandsInFrames judge (.ofPolicy p) S c read outcome)
    (hexplains : judge.Explains c'.session.log) :
    ∃ read outcome, StandsInFrames judge (.ofPolicy p) (S ++ w) c' read outcome := by
  cases h with
  | touched htouched =>
    rw [htouched.session_eq] at hexplains
    obtain ⟨read, outcome, hstands⟩ := hc hexplains
    rw [List.append_nil]
    exact ⟨read, outcome, hstands.of_touched htouched⟩
  | started hstart =>
    have hlog : c'.session.log = c.session.log := by
      unfold start at hstart
      split at hstart <;> cases hstart
      rfl
    rw [hlog] at hexplains
    obtain ⟨read, outcome, hstands⟩ := hc hexplains
    rw [List.append_nil]
    exact ⟨read, outcome, hstands.of_start hstart⟩
  | peerSends _ hpeer =>
    rw [peerSends_eq] at hexplains
    obtain ⟨read, outcome, hstands⟩ := hc hexplains
    exact ⟨read, outcome, hstands.of_peerSends hpeer⟩
  | peerEnds how =>
    rw [peerEnds_eq] at hexplains
    obtain ⟨read, outcome, hstands⟩ := hc hexplains
    rw [List.append_nil]
    exact ⟨read, outcome, hstands.of_peerEnds⟩
  | goesOn hprogresses =>
    obtain ⟨read, outcome, hstands⟩ := hc (hexplains.of_longer (hprogresses.log_grows hspares))
    obtain ⟨hended, rfl⟩ := hstands.alive hprogresses.not_over
    obtain ⟨read', outcome', hdecodes, houtcome, _⟩ :=
      hprogresses.decodes hspares hexplains hstands.decodes
    have hpeer := hstands.peer_of_progresses hprogresses
    have halive := hprogresses.phase_alive
    rw [List.append_nil]
    refine ⟨read', outcome', hdecodes, fun _ => ⟨hprogresses.peer_eq.2.trans hended, houtcome rfl⟩,
      fun hpending => ?_, fun hnone => absurd hnone hpeer, fun hover => ?_⟩
    · rcases halive with h | h <;> cases hpending.symm.trans h
    · rcases halive with h | h <;> cases hover.symm.trans h
  | ends hprogresses hdown =>
    -- the last callback is given no frame
    rw [hdown.log_eq] at hexplains
    obtain ⟨read, outcome, hstands⟩ := hc (hexplains.of_longer (hprogresses.log_grows hspares))
    obtain ⟨hended, rfl⟩ := hstands.alive hprogresses.not_over
    obtain ⟨read', outcome', hdecodes, _, hends⟩ :=
      hprogresses.decodes hspares hexplains hstands.decodes
    obtain ⟨hdecodes', hover, hpeer', hremote, hended'⟩ := hdown.decodes hdecodes
    have hpeer := hstands.peer_of_progresses hprogresses
    rw [List.append_nil]
    refine ⟨read', outcome', hdecodes', fun hnot => absurd hover hnot,
      fun h => (nomatch hover.symm.trans h), fun hnone => absurd (hpeer'.symm.trans hnone) hpeer,
      fun _ _ => ⟨_, hended', ?_⟩⟩
    rw [EndsBy, hremote]
    exact hends _ rfl

/-! ## Receiving frames

Here the connection has nothing left to do.  Then it has ended or has read everything, and the
invariant becomes a statement about the stream alone. -/

/-- What has become of a connection that has nothing left to do, in terms of one decode of all that
its peer sent.  If that fails, so did the connection, over the same frames and for the same reason.
If not, the connection goes on or the peer was finished; or else the connection was interrupted, and
what was read until then was good. -/
inductive Settled (c : Connection (Logged (Frame × Verdict) τ)) (judge : Judgement) (d : Decoder)
    (S : Bytes) : Prop
  | failed (reason : DisconnectReason) : c.frames = (judge.decode d S).2 →
      reasonOf (verdictOf (judge.decode d S).1) = some reason → c.ended = some reason →
      Settled c judge d S
  | whole : c.frames = (judge.decode d S).2 → verdictOf (judge.decode d S).1 = some (.ok ()) →
      c.ended = none ∨ c.ended = some .peerClosed → Settled c judge d S
  | interrupted (read : Nat) (reason : DisconnectReason) : c.socket.inbound = S.drop read →
      c.frames = (judge.decode d (S.take read)).2 →
      verdictOf (judge.decode d (S.take read)).1 = some (.ok ()) →
      c.ended = some reason → reason.Interrupts → Settled c judge d S

/-- `c.ReceivesFrames judge d S`: the handler was given the frames of one decode of what was read of
`S`, which is all of `S` when a connection that goes on has nothing left to do. -/
structure ReceivesFrames (c : Connection (Logged (Frame × Verdict) τ)) (judge : Judgement)
    (d : Decoder) (S : Bytes) : Prop where
  frames : ∃ read ≤ S.length, c.socket.inbound = S.drop read ∧
    c.frames = (judge.decode d (S.take read)).2
  connected : c.phase = .connected → c.next? = none →
    c.frames = (judge.decode d S).2 ∧ verdictOf (judge.decode d S).1 = some (.ok ())
  quiet : c.next? = none → c.Settled judge d S

/-- What was read of the stream, in terms of one decode. -/
theorem Decodes.eq_decode {d : Decoder} (hc : c.Decodes judge d S read outcome) :
    c.frames = (judge.decode d (S.take read)).2 ∧
      verdictOf (judge.decode d (S.take read)).1 = verdictOf outcome := by
  have hdecode := hc.decode
  rw [Judgement.decodeRest_eq_decode] at hdecode
  obtain ⟨hfst, hsnd⟩ := Prod.mk.inj hdecode
  exact ⟨hsnd.symm, by rw [← hfst, Judgement.verdictOf_map]⟩

/-- Where nothing is left to read, all was read. -/
theorem Decodes.read_eq {d : Decoder} (hc : c.Decodes judge d S read outcome)
    (hempty : c.socket.inbound = []) : read = S.length := by
  have hinbound := hc.inbound
  rw [hempty] at hinbound
  have hge := List.drop_eq_nil_iff.mp hinbound.symm
  have hle := hc.le_length
  omega

/-- A failure is that of the whole stream, however much of it was read. -/
theorem Decodes.eq_decode_of_failure {d : Decoder} (hc : c.Decodes judge d S read outcome)
    (hfail : verdictOf outcome ≠ some (.ok ())) :
    c.frames = (judge.decode d S).2 ∧ verdictOf (judge.decode d S).1 = verdictOf outcome := by
  have hwhole := Judgement.decodeRest_append_of_failure hc.decode hfail (S.drop read)
  rw [List.take_append_drop, Judgement.decodeRest_eq_decode] at hwhole
  obtain ⟨hfst, hsnd⟩ := Prod.mk.inj hwhole
  exact ⟨hsnd.symm, by rw [← hfst, Judgement.verdictOf_map]⟩

/-- A connection that has read everything without a failure. -/
theorem Decodes.eq_decode_of_all {d : Decoder} {rest : Bytes}
    (hc : c.Decodes judge d S read (some (.ok rest))) (hall : S.take read = S) :
    c.frames = (judge.decode d S).2 ∧ verdictOf (judge.decode d S).1 = some (.ok ()) := by
  have hdecode := hc.eq_decode
  rw [hall] at hdecode
  exact hdecode

/-- A connection that goes on has read everything, and found nothing wrong with it. -/
theorem StandsInFrames.connected {d : Decoder} (hc : StandsInFrames judge d S c read outcome)
    (hphase : c.phase = .connected) (hquiet : c.next? = none) :
    c.frames = (judge.decode d S).2 ∧ verdictOf (judge.decode d S).1 = some (.ok ()) := by
  obtain ⟨_, rfl⟩ := hc.alive (by rw [hphase]; decide)
  apply hc.decodes.eq_decode_of_all
  rw [hc.decodes.read_eq (inbound_of_next? hphase hquiet), List.take_length]

/-- A connection that was never started. -/
theorem StandsInFrames.settled_of_alone {d : Decoder} (hc : StandsInFrames judge d S c read outcome)
    (hnone : c.peer = none) : c.Settled judge d S := by
  obtain ⟨rfl, hended, _⟩ := hc.alone hnone
  have hdecodes := hc.decodes
  -- nothing was sent, so nothing was decoded
  have houtcome : outcome = some (.ok []) := by
    have hdecode := hdecodes.decode
    rw [List.take_nil, Judgement.decodeRest_of_incomplete d.head_nil] at hdecode
    exact (Prod.mk.inj hdecode).1.symm
  rw [houtcome] at hdecodes
  obtain ⟨hframes, hverdict⟩ := hdecodes.eq_decode_of_all List.take_nil
  exact .whole hframes hverdict (.inl hended)

/-- A connection that has ended. -/
theorem StandsInFrames.settled_of_ended {d : Decoder} {reason : DisconnectReason}
    (hc : StandsInFrames judge d S c read outcome) (hended : c.ended = some reason)
    (hends : c.EndsBy S read outcome reason) : c.Settled judge d S := by
  cases hends with
  | frames hreason =>
    have hfail : verdictOf outcome ≠ some (.ok ()) := by
      intro hok
      rw [reasonOf_eq_none_iff.mpr hok] at hreason
      cases hreason
    obtain ⟨hframes, hverdict⟩ := hc.decodes.eq_decode_of_failure hfail
    exact .failed reason hframes (by rw [hverdict, hreason]) hended
  | peer hok hfinished =>
    obtain ⟨hframes, hverdict⟩ := hc.decodes.eq_decode
    rw [hfinished.1, List.take_length] at hframes hverdict
    exact .whole hframes (hverdict.trans (reasonOf_eq_none_iff.mp hok)) (.inr hended)
  | interrupted hok hinterrupts =>
    obtain ⟨hframes, hverdict⟩ := hc.decodes.eq_decode
    exact .interrupted read reason hc.decodes.inbound hframes
      (hverdict.trans (reasonOf_eq_none_iff.mp hok)) hended hinterrupts

/-- A connection that has nothing left to do was never started, has ended, or has read everything.
-/
theorem StandsInFrames.settled {d : Decoder} (hc : StandsInFrames judge d S c read outcome)
    (hquiet : c.next? = none) : c.Settled judge d S := by
  cases hphase : c.phase with
  | pending => exact hc.settled_of_alone (hc.pending hphase).2
  | connected =>
    obtain ⟨hframes, hverdict⟩ := hc.connected hphase hquiet
    obtain ⟨hended, _⟩ := hc.alive (by rw [hphase]; decide)
    exact .whole hframes hverdict (.inl hended)
  | disconnecting =>
    rw [next?, hphase] at hquiet
    cases hquiet
  | disconnected =>
    by_cases hpeer : c.peer = none
    · exact hc.settled_of_alone hpeer
    · obtain ⟨reason, hended, hends⟩ := hc.gone hphase hpeer
      exact hc.settled_of_ended hended hends

end Connection

/-- **Receiving is exact.**  In every run, for all sizes of buffers and however a stream is cut into
writes and reads, connections receive exactly what their peers send; and a handler of frames that
does not ask for the end over a frame is given the frames of one decode of that, with the same
end. -/
theorem Hub.log_receiving (moves : List (Move τ)) (shared : σ) (i : ConnectionId) :
    (∀ (handler : Handler σ τ) (c : Connection (Logged Call τ)),
      (handler.recorded.log moves shared).connection? i = some c →
        c.ReceivesExactly (Hub.writtenIn handler i moves { shared })) ∧
    ∀ (handler : PacketHandler σ τ) (p : FramePolicy) (judge : Judgement)
      (c : Connection (Logged (Frame × Verdict) τ)), handler.Spares i →
      ((handler.recorded.framed p).log moves shared).connection? i = some c →
        judge.Explains c.session.log →
          c.ReceivesFrames judge (.ofPolicy p)
            (Hub.writtenIn (handler.framed p) i moves { shared }) := by
  refine ⟨fun handler c hc => handler.log_receivesExactly moves shared hc, ?_⟩
  intro handler p judge c hspares hc hexplains
  rw [← (handler.logs_framed_recorded p).writtenIn_log]
  obtain ⟨read, outcome, hstands⟩ :
      ∃ read outcome, Connection.StandsInFrames judge (.ofPolicy p) _ c read outcome := by
    refine Handler.log_keeps
      (P := fun S c => judge.Explains c.session.log →
        ∃ read outcome, Connection.StandsInFrames judge (.ofPolicy p) S c read outcome)
      (fun sizing kept _ => ?_) (fun S w c c' hP hchange hexplains => ?_) hc hexplains
    · exact ⟨0, _, Connection.standsInFrames_fresh judge (.ofPolicy p) sizing kept⟩
    · exact Connection.StandsInFrames.of_change hspares hchange hP hexplains
  refine ⟨⟨read, hstands.decodes.le_length, hstands.decodes.inbound, ?_⟩, hstands.connected,
    hstands.settled⟩
  exact hstands.decodes.eq_decode.1

/-- A handler that accepts every frame. -/
def PacketHandler.accepting : PacketHandler Unit Unit where
  onPacket _ _ := pure ()

/-- A frame and a half, in two writes and by single bytes through a buffer that has room for none in
the beginning. -/
def Move.singleBytes : List (Move Unit) :=
  [.create { bufferSize := 0, minSpace := 0 } (), .start ⟨0⟩ ⟨.v4 ⟨127, 0, 0, 1⟩, 4000⟩,
    .progress ⟨0⟩ .greet {}, .peerSends ⟨0⟩ [4, 0, 9], .progress ⟨0⟩ .receive {},
    .progress ⟨0⟩ .receive {}, .progress ⟨0⟩ .receive {}, .peerSends ⟨0⟩ [0, 7],
    .progress ⟨0⟩ .receive {}, .progress ⟨0⟩ .receive {}]

/-- A log of good verdicts is explained by a judgement that accepts everything. -/
theorem Judgement.explains_accepted {log : List (Frame × Verdict)}
    (h : ∀ entry ∈ log, reasonOf entry.2 = none) :
    Judgement.Explains (fun _ _ => some (.ok ())) log := by
  rintro before entry after rfl
  apply reasonOf_eq_none_iff.mp
  apply h
  exact List.mem_append_right before List.mem_cons_self

/-- A stream that comes byte by byte, of a frame that is whole and one that is not. -/
theorem Hub.log_receiving_singleBytes :
    (∃ c, ((PacketHandler.accepting.framed {}).recorded.log Move.singleBytes ()).connection? ⟨0⟩ =
        some c ∧ c.ReceivesExactly [4, 0, 9, 0, 7]) ∧
    ∃ c, ((PacketHandler.accepting.recorded.framed {}).log Move.singleBytes ()).connection? ⟨0⟩ =
        some c ∧ c.frames = [⟨.two, [4, 0, 9, 0]⟩] ∧
      c.ReceivesFrames (fun _ _ => some (.ok ())) (.ofPolicy {}) [4, 0, 9, 0, 7] := by
  have hwritten : Hub.writtenIn (PacketHandler.accepting.framed {}) ⟨0⟩ Move.singleBytes
      { shared := () } = [4, 0, 9, 0, 7] := by decide +kernel
  have hbytes : (((PacketHandler.accepting.framed {}).recorded.log Move.singleBytes ()).connection?
      ⟨0⟩).isSome = true := by decide +kernel
  have hframes : (((PacketHandler.accepting.recorded.framed {}).log Move.singleBytes ()).connection?
      ⟨0⟩).map (fun c => (c.frames, c.session.log.all fun entry => reasonOf entry.2 = none)) =
        some ([⟨.two, [4, 0, 9, 0]⟩], true) := by decide +kernel
  obtain ⟨c, hc⟩ := Option.isSome_iff_exists.mp hbytes
  obtain ⟨c', hc', hstate⟩ := Option.map_eq_some_iff.mp hframes
  obtain ⟨hgiven, hgood⟩ := Prod.mk.inj hstate
  have hexplains : Judgement.Explains (fun _ _ => some (.ok ())) c'.session.log := by
    apply Judgement.explains_accepted
    simpa using hgood
  have hspares : PacketHandler.accepting.Spares ⟨0⟩ := fun _ _ _ => trivial
  obtain ⟨hexact, hreceives⟩ := Hub.log_receiving Move.singleBytes () ⟨0⟩
  rw [← hwritten]
  exact ⟨⟨c, hc, hexact _ c hc⟩, c', hc', hgiven, hreceives _ {} _ c' hspares hc' hexplains⟩

end ChatLobby
