import ChatLobby.Proofs.Recorder

/-!
# Sending

Between the payloads that were accepted and the bytes that the peer received stand the queue and the
batch that is being written.  Sends append to the queue at one end.  The sending side takes it whole
for its next batch, and takes bytes from the front of the batch with each write.  So what was
received, what is left of the batch and what is queued are together what was accepted (`Balanced`),
as long as the connection goes on.  The end discards the rest, whatever the sending side was about,
and then what was received is the beginning of what was accepted.

That nothing stays behind is another matter.  A connection does not look at the queue unless it was
woken, so that it may well be quiet while something is queued; `Connection.Attended` says that it is
not, and `Change.attended` that every move keeps it so.

* `Hub.attended_run`: in every run, a flush is under way or a wake-up is left if anything is queued.
* `Handler.log_sending`: what the peer of a connection received, in every run.
-/

namespace ChatLobby

variable {σ τ : Type}

/-- How many bytes the handler is told were sent. -/
def Call.sentCount : Call → Nat
  | .sent count => count
  | .connected | .received .. | .disconnected _ => 0

/-- How many bytes the handler was told were sent, altogether. -/
def Call.sentTotal (log : List Call) : Nat := (log.map Call.sentCount).sum

@[simp] theorem Call.sentTotal_append (log more : List Call) :
    sentTotal (log ++ more) = sentTotal log + sentTotal more := by
  simp [sentTotal]

/-- How many bytes were written that the handler is not told of before the batch is. -/
def Sender.untold (s : Sender) : Nat :=
  match s.stage with
  | .writing total => total
  | .waiting | .looking => 0

/-! ## Nothing is left behind

Callbacks act on connections as anybody does.  So what is left to see to are the moves that a
connection makes by itself, and among them those of the sending side. -/

namespace Connection

section Attended

variable {handler : Handler σ τ} {i : ConnectionId} {c c' d : Connection τ}
  {end? : Option DisconnectReason}

/-- Neither the session nor the stream matters. -/
theorem Attended.of_called {α : Type} {callback : Callback σ τ α} {answer : Option α}
    (h : callback.Leads i c answer c') (hc : c.Attended) : c'.Attended :=
  .of_touched h.touched (hc.alike rfl rfl)

/-- Whatever a connection does by itself, the queue stays attended. -/
theorem Progresses.attended (h : Progresses handler i c d end?) (hc : c.Attended) :
    d.Attended := by
  cases h with
  | obey | endOfStream | brokenOff => exact hc
  | greet _ hleads =>
    apply Attended.of_called hleads
    exact hc.alike rfl rfl
  | receive _ _ hleads _ =>
    have hcalled := Attended.of_called hleads (hc.alike rfl rfl)
    exact hcalled.alike rfl rfl
  | receiveFails _ _ hleads _ =>
    apply Attended.of_called hleads
    exact hc.alike rfl rfl
  | sends | sendFails => exact hc.sendOn (sendsOn ..)
  | reports _ _ hleads =>
    -- the handler may send more when it is told of a batch, and that is looked at next
    apply Attended.of_called hleads
    exact hc.sendOn (sendsOn ..)

/-- **Every move keeps the queue attended**, until the connection is over. -/
theorem Change.attended {w : Bytes} (h : Change handler i w c c')
    (hc : c.phase ≠ .disconnected → c.Attended) (hnot : c'.phase ≠ .disconnected) :
    c'.Attended := by
  cases h with
  | touched htouched =>
    apply Attended.of_touched htouched
    apply hc
    intro hover
    rw [htouched.eq_of_ending (.inr hover)] at hnot
    exact hnot hover
  | started hstart =>
    unfold start at hstart
    split at hstart
    · next hphase =>
      cases hstart
      have hattended := hc (by rw [hphase]; decide)
      exact hattended.alike rfl rfl
    · cases hstart
  | peerSends =>
    rw [peerSends_eq] at hnot ⊢
    exact (hc hnot).alike rfl rfl
  | peerEnds =>
    rw [peerEnds_eq] at hnot ⊢
    exact (hc hnot).alike rfl rfl
  | goesOn hprogresses => exact hprogresses.attended (hc hprogresses.not_over)
  | ends _ hdown =>
    obtain ⟨answer, d, _, rfl⟩ := hdown
    exact absurd rfl hnot

end Attended

end Connection

/-- **No payload is left behind.**  In every run, as long as a connection is not over, a flush is
under way or a wake-up is left for one if anything is queued, and the sending side has a batch only
while it writes it. -/
theorem Hub.attended_run (handler : Handler σ τ) (moves : List (Move τ)) (shared : σ)
    {i : ConnectionId} {c : Connection τ}
    (hc : (Hub.run handler moves { shared }).connection? i = some c)
    (hnot : c.phase ≠ .disconnected) : c.Attended := by
  refine Hub.run_keeps (P := fun _ c => c.phase ≠ .disconnected → c.Attended)
    (fun sizing session _ _ => ?_) (fun _ _ _ _ hc hchange => hchange.attended hc) rfl hc hnot
  exact ⟨rfl, fun hne => absurd rfl hne, fun hne => absurd rfl hne, fun hne => absurd rfl hne⟩

/-! ## Nothing is lost, and nothing is sent twice

What holds as long as the connection goes on is told apart from what holds for ever: the end
discards the queue and the batch, so that `Balanced` does not survive it, and `Faithful` does. -/

namespace Connection

/-- What was received, what is left of the batch and what is queued are what was accepted, and the
handler was told how many bytes were received, those of the batch excepted. -/
structure Balanced (c : Connection (Logged Call τ)) : Prop where
  bytes : c.socket.delivered ++ c.sender.batch.flatten ++ c.queue.flatten = c.accepted.flatten
  told : Call.sentTotal c.session.log + c.sender.untold = c.socket.delivered.length

/-- What was received is the beginning of what was accepted, nothing empty is sent, the sending side
is not woken for nothing, and the handler is never told of nothing. -/
structure Faithful (c : Connection (Logged Call τ)) : Prop where
  delivered : c.socket.delivered <+: c.accepted.flatten
  queue : [] ∉ c.queue
  batch : [] ∉ c.sender.batch
  written : ∀ total, c.sender.stage = .writing total → c.sender.batch = [] → 0 < total
  roused : c.sender.flushing = true → c.accepted ≠ []
  told : ∀ count, Call.sent count ∈ c.session.log → 0 < count

/-- `c.SendsAs d`: the connections are the same in all that sending is about. -/
structure SendsAs (c d : Connection (Logged Call τ)) : Prop where
  delivered_eq : d.socket.delivered = c.socket.delivered
  queue_eq : d.queue = c.queue
  sender_eq : d.sender = c.sender
  accepted_eq : d.accepted = c.accepted
  log_eq : d.session.log = c.session.log

variable {c c' d : Connection (Logged Call τ)}

theorem Balanced.alike (hc : c.Balanced) (h : c.SendsAs d) : d.Balanced := by
  obtain ⟨hdelivered, hqueue, hsender, haccepted, hlog⟩ := h
  constructor
  · rw [hdelivered, hqueue, hsender, haccepted]
    exact hc.bytes
  · rw [hdelivered, hsender, hlog]
    exact hc.told

theorem Faithful.alike (hc : c.Faithful) (h : c.SendsAs d) : d.Faithful := by
  obtain ⟨hdelivered, hqueue, hsender, haccepted, hlog⟩ := h
  obtain ⟨hreceived, hqueued, hleft, hwritten, hroused, htold⟩ := hc
  constructor
  · rwa [hdelivered, haccepted]
  · rwa [hqueue]
  · rwa [hsender]
  · rwa [hsender]
  · rwa [hsender, haccepted]
  · rwa [hlog]

theorem Balanced.delivered_isPrefix (hc : c.Balanced) :
    c.socket.delivered <+: c.accepted.flatten := by
  rw [← hc.bytes, List.append_assoc]
  exact List.prefix_append ..

/-- Where the sending side has nothing to do, everything was received and told of. -/
theorem Balanced.of_not_isActive (hc : c.Balanced) (hattended : c.Attended)
    (hidle : c.sender.isActive = false) :
    c.socket.delivered = c.accepted.flatten ∧ c.queue = [] ∧ c.sender.batch = [] ∧
      Call.sentTotal c.session.log = c.accepted.flatten.length := by
  obtain ⟨hbytes, htold⟩ := hc
  obtain ⟨hqueue, hbatch, hstage⟩ := hattended.of_not_isActive hidle
  rw [hqueue, hbatch, List.flatten_nil, List.append_nil, List.append_nil] at hbytes
  rw [Sender.untold, hstage, hbytes] at htold
  exact ⟨hbytes, hqueue, hbatch, htold⟩

/-- What is sent goes to the end of the queue. -/
theorem Balanced.of_touched (h : c.Touched c') (hc : c.Balanced) : c'.Balanced := by
  refine h.keeps (P := Balanced) (fun c data hc => ?_) (fun c hc => ?_) hc
  · by_cases hphase : c.phase = .connected
    · rw [send_of_connected hphase]
      -- what is accepted is queued behind the rest, unless it is empty
      cases data with
      | nil =>
        refine ⟨?_, hc.told⟩
        show c.socket.delivered ++ c.sender.batch.flatten ++ c.queue.flatten
          = (c.accepted ++ [[]]).flatten
        rw [hc.bytes]
        simp
      | cons b data =>
        refine ⟨?_, ?_⟩
        · show c.socket.delivered ++ c.sender.wake.batch.flatten ++ (c.queue ++ [b :: data]).flatten
            = (c.accepted ++ [b :: data]).flatten
          rw [Sender.batch_wake, List.flatten_append, List.flatten_append, ← List.append_assoc,
            hc.bytes]
        · show Call.sentTotal c.session.log + c.sender.wake.untold = _
          rw [Sender.untold, Sender.stage_wake]
          exact hc.told
    · rw [send_of_ne hphase]
      exact hc
  · unfold Connection.disconnect
    split <;> exact hc.alike ⟨rfl, rfl, rfl, rfl, rfl⟩

/-- What is sent is queued only if there is something to it. -/
theorem Faithful.of_touched (h : c.Touched c') (hc : c.Faithful) : c'.Faithful := by
  refine h.keeps (P := Faithful) (fun c data hc => ?_) (fun c hc => ?_) hc
  · by_cases hphase : c.phase = .connected
    · rw [send_of_connected hphase]
      have hdelivered : c.socket.delivered <+: (c.accepted ++ [data]).flatten := by
        rw [List.flatten_append]
        exact hc.delivered.trans (List.prefix_append ..)
      have hroused : c.accepted ++ [data] ≠ [] := by simp
      cases data with
      | nil => exact ⟨hdelivered, hc.queue, hc.batch, hc.written, fun _ => hroused, hc.told⟩
      | cons b data =>
        refine ⟨hdelivered, ?_, ?_, ?_, fun _ => hroused, hc.told⟩
        · show [] ∉ c.queue ++ [b :: data]
          simp [hc.queue]
        · show [] ∉ c.sender.wake.batch
          rw [Sender.batch_wake]
          exact hc.batch
        · show ∀ total, c.sender.wake.stage = _ → c.sender.wake.batch = [] → _
          rw [Sender.batch_wake, Sender.stage_wake]
          exact hc.written
    · rw [send_of_ne hphase]
      exact hc
  · unfold Connection.disconnect
    split <;> exact hc.alike ⟨rfl, rfl, rfl, rfl, rfl⟩

theorem Balanced.of_recorded {calls : List Call} (h : c.Recorded calls c')
    (hbytes : c.socket.delivered ++ c.sender.batch.flatten ++ c.queue.flatten = c.accepted.flatten)
    (htold : Call.sentTotal c.session.log + Call.sentTotal calls + c.sender.untold =
      c.socket.delivered.length) :
    c'.Balanced := by
  obtain ⟨kept, htouched⟩ := h
  refine .of_touched htouched ⟨hbytes, ?_⟩
  show Call.sentTotal (c.session.log ++ calls) + c.sender.untold = _
  rw [Call.sentTotal_append]
  exact htold

theorem Faithful.of_recorded {calls : List Call} (h : c.Recorded calls c') (hc : c.Faithful)
    (hcalls : ∀ count, Call.sent count ∈ calls → 0 < count) : c'.Faithful := by
  obtain ⟨kept, htouched⟩ := h
  refine .of_touched htouched
    ⟨hc.delivered, hc.queue, hc.batch, hc.written, hc.roused, fun count hmem => ?_⟩
  rcases List.mem_append.mp hmem with hmem | hmem
  · exact hc.told count hmem
  · exact hcalls count hmem

/-- A move of the sending side that is not told of takes bytes from the front of the batch to the
peer, or the whole queue to the batch. -/
theorem SendsOn.balanced (h : c.SendsOn (.ok none) c') (hattended : c.Attended)
    (hc : c.Balanced) : c'.Balanced := by
  have htold := hc.told
  cases h with
  | idles => exact hc
  | wakes hstage | rests hstage =>
    rw [Sender.untold, hstage] at htold
    exact ⟨hc.bytes, htold⟩
  | loads hstage =>
    -- the last batch was written whole, so that the queue is not put before it
    have hbatch := hattended.batch_eq_nil (by rw [hstage]; rintro total ⟨⟩)
    rw [Sender.untold, hstage] at htold
    refine ⟨?_, htold⟩
    show c.socket.delivered ++ c.queue.flatten ++ c.sender.batch.flatten = _
    rw [← hc.bytes, hbatch]
    simp
  | @writes total n hstage _ _ hle =>
    rw [Sender.untold, hstage] at htold
    refine ⟨?_, ?_⟩
    · show c.socket.delivered ++ (Batch.offer c.sender.batch).take n ++
        (Batch.dropSent n c.sender.batch).flatten ++ c.queue.flatten = c.accepted.flatten
      rw [Batch.take_offer hle, Batch.flatten_dropSent, List.append_assoc c.socket.delivered,
        List.take_append_drop, hc.bytes]
    · show Call.sentTotal c.session.log + (total + n) =
        (c.socket.delivered ++ (Batch.offer c.sender.batch).take n).length
      rw [List.length_append, List.length_take, Nat.min_eq_left hle, ← htold, Nat.add_assoc]

/-- Each move of the sending side is faithful, a failed write included. -/
theorem SendsOn.faithful {sent : Except IoError (Option Nat)} (h : c.SendsOn sent c')
    (hattended : c.Attended) (hc : c.Balanced) (hf : c.Faithful) : c'.Faithful := by
  cases h with
  | idles | stalls => exact hf
  | wakes | reports =>
    exact ⟨hf.delivered, hf.queue, hf.batch, fun _ h => (nomatch h), hf.roused, hf.told⟩
  | rests =>
    exact ⟨hf.delivered, hf.queue, hf.batch, fun _ h => (nomatch h), fun h => (nomatch h), hf.told⟩
  | loads hstage hqueue =>
    exact ⟨hf.delivered, hf.batch, hf.queue, fun _ _ h => absurd h hqueue, hf.roused, hf.told⟩
  | writes hstage hleft hpos hle =>
    have hbalanced := (SendsOn.writes hstage hleft hpos hle).balanced hattended hc
    refine ⟨hbalanced.delivered_isPrefix, hf.queue, Batch.nil_notMem_dropSent hf.batch,
      fun _ h _ => ?_, hf.roused, hf.told⟩
    cases h
    omega

variable {handler : Handler σ τ} {i : ConnectionId} {end? : Option DisconnectReason}
  {outcome : DisconnectReason}

/-- Only a failed write leaves something unsent, and that ends the connection. -/
theorem Progresses.balanced (h : Progresses handler.recorded i c d end?) (hattended : c.Attended)
    (hc : c.Balanced) (hf : c.Faithful) : d.Faithful ∧ (end? = none → d.Balanced) := by
  cases h with
  | greet _ hleads =>
    have hrecorded := Recorded.of_onConnected hleads
    have hf' : d.Faithful := .of_recorded hrecorded
      (hf.alike ⟨rfl, rfl, rfl, rfl, rfl⟩) (by simp)
    refine ⟨hf', fun _ => ?_⟩
    exact .of_recorded hrecorded hc.bytes hc.told
  | obey | endOfStream | brokenOff => exact ⟨hf, fun _ => hc⟩
  | receive _ _ hleads _ =>
    have hrecorded := Recorded.of_onReceived hleads
    have hf' := Faithful.of_recorded hrecorded
      (hf.alike ⟨rfl, rfl, rfl, rfl, rfl⟩) (by simp)
    have hc' := Balanced.of_recorded hrecorded hc.bytes hc.told
    exact ⟨hf'.alike ⟨rfl, rfl, rfl, rfl, rfl⟩, fun _ => hc'.alike ⟨rfl, rfl, rfl, rfl, rfl⟩⟩
  | receiveFails _ _ hleads _ =>
    have hrecorded := Recorded.of_onReceived hleads
    have hf' : d.Faithful := .of_recorded hrecorded
      (hf.alike ⟨rfl, rfl, rfl, rfl, rfl⟩) (by simp)
    refine ⟨hf', fun _ => ?_⟩
    exact .of_recorded hrecorded hc.bytes hc.told
  | @sends pace _ hresult =>
    have hsends := sendsOn c pace
    rw [hresult] at hsends
    exact ⟨hsends.faithful hattended hc hf, fun _ => hsends.balanced hattended hc⟩
  | @reports _ pace total answer _ hresult hleads =>
    have hrecorded := Recorded.of_onSent hleads
    have hsends := sendsOn c pace
    have hf' := hsends.faithful hattended hc hf
    rw [hresult] at hsends
    generalize (c.sendOn pace).2 = written at *
    cases hsends with
    | reports hstage hbatch =>
      refine ⟨.of_recorded hrecorded hf' ?_, fun _ => .of_recorded hrecorded hc.bytes ?_⟩
      · intro count hcount
        cases List.mem_singleton.mp hcount
        exact hf.written total hstage hbatch
      · -- what was written of the batch is told of now
        have htold := hc.told
        rw [Sender.untold, hstage] at htold
        exact htold
  | sendFails => exact ⟨(sendsOn ..).faithful hattended hc hf, fun h => nomatch h⟩

theorem TornDown.faithful (h : TornDown handler.recorded i outcome c c') (hc : c.Faithful) :
    c'.Faithful ∧ c'.phase = .disconnected := by
  obtain ⟨answer, d, hleads, rfl⟩ := h
  have hrecorded := Recorded.of_onDisconnected hleads
  rw [shut_eq] at hrecorded
  have hd : d.Faithful := .of_recorded hrecorded
    ⟨hc.delivered, List.not_mem_nil, List.not_mem_nil, fun _ h => (nomatch h),
      fun h => (nomatch h), hc.told⟩ (by simp)
  exact ⟨hd.alike ⟨rfl, rfl, rfl, rfl, rfl⟩, rfl⟩

/-- Moves keep what was received in step with what was accepted, up to the end. -/
theorem Change.sending {w : Bytes} (h : Change handler.recorded i w c c') (hf : c.Faithful)
    (hc : c.phase ≠ .disconnected → c.Attended ∧ c.Balanced) :
    c'.Faithful ∧ (c'.phase ≠ .disconnected → c'.Balanced) := by
  cases h with
  | touched htouched =>
    refine ⟨hf.of_touched htouched, fun hnot => ?_⟩
    by_cases hover : c.phase = .disconnected
    · rw [htouched.eq_of_ending (.inr hover)] at hnot
      exact absurd hover hnot
    · exact (hc hover).2.of_touched htouched
  | started hstart =>
    unfold start at hstart
    split at hstart
    · next hphase =>
      cases hstart
      obtain ⟨_, hbalanced⟩ := hc (by rw [hphase]; decide)
      exact ⟨hf.alike ⟨rfl, rfl, rfl, rfl, rfl⟩,
        fun _ => hbalanced.alike ⟨rfl, rfl, rfl, rfl, rfl⟩⟩
    · cases hstart
  | peerSends =>
    have hdelivered := delivered_peerSends c w
    rw [peerSends_eq]
    exact ⟨hf.alike ⟨hdelivered, rfl, rfl, rfl, rfl⟩,
      fun hnot => (hc hnot).2.alike ⟨hdelivered, rfl, rfl, rfl, rfl⟩⟩
  | peerEnds how =>
    have hdelivered := delivered_peerEnds c how
    rw [peerEnds_eq]
    exact ⟨hf.alike ⟨hdelivered, rfl, rfl, rfl, rfl⟩,
      fun hnot => (hc hnot).2.alike ⟨hdelivered, rfl, rfl, rfl, rfl⟩⟩
  | goesOn hprogresses =>
    obtain ⟨hattended, hbalanced⟩ := hc hprogresses.not_over
    obtain ⟨hf', hc'⟩ := hprogresses.balanced hattended hbalanced hf
    exact ⟨hf', fun _ => hc' rfl⟩
  | ends hprogresses hdown =>
    obtain ⟨hattended, hbalanced⟩ := hc hprogresses.not_over
    obtain ⟨hf', _⟩ := hprogresses.balanced hattended hbalanced hf
    obtain ⟨hfaithful, hover⟩ := hdown.faithful hf'
    exact ⟨hfaithful, fun hnot => absurd hover hnot⟩

/-- A connection that goes on and has nothing left to do has a sending side that waits. -/
theorem idle_of_next? {c : Connection τ} (hphase : c.phase = .connected)
    (hquiet : c.next? = none) : c.sender.isActive = false := by
  unfold next? at hquiet
  grind

end Connection

/-! ## What was accepted

An action sees the answers to what it sends.  So what was accepted of it can be read off the action
and the connections that it is run on. -/

/-- The payloads that `a` sends over connection `i` and that are accepted, in order. -/
def Action.acceptedBy {α : Type} (i : ConnectionId) : Action α → List (Connection τ) → List Bytes
  | .done _, _ => []
  | .send target data next, cs =>
    match cs[target.index]? with
    | none => (next false).acceptedBy i cs
    | some c =>
      (if target = i ∧ (c.send data).1 = true then [data] else []) ++
        (next (c.send data).1).acceptedBy i (cs.set target.index (c.send data).2)
  | .disconnect target next, cs =>
    match cs[target.index]? with
    | none => (next false).acceptedBy i cs
    | some c => (next c.disconnect.1).acceptedBy i (cs.set target.index c.disconnect.2)

namespace Connection

theorem accepted_send (c : Connection τ) (data : Bytes) :
    (c.send data).2.accepted = c.accepted ++ if (c.send data).1 = true then [data] else [] := by
  by_cases hphase : c.phase = .connected
  · rw [send_of_connected hphase]
    rfl
  · rw [send_of_ne hphase]
    exact (List.append_nil _).symm

end Connection

/-- Whoever does something to connections, each has accepted what it had accepted before, and then
the payloads for which the answer to sending them was yes. -/
theorem Action.accepted_run {α : Type} {i : ConnectionId} (a : Action α) {cs : List (Connection τ)}
    {c : Connection τ} (hc : cs[i.index]? = some c) :
    ∃ c', (a.run cs).2[i.index]? = some c' ∧ c'.accepted = c.accepted ++ a.acceptedBy i cs := by
  induction a generalizing cs c with
  | done x => exact ⟨c, hc, (List.append_nil _).symm⟩
  | send j data next ih =>
    rw [run, acceptedBy]
    by_cases hj : j = i
    · subst hj
      rw [hc]
      have hset : (cs.set j.index (c.send data).2)[j.index]? = some (c.send data).2 :=
        List.getElem?_set_self (List.getElem?_eq_some_iff.mp hc).1
      obtain ⟨c', hc', haccepted⟩ := ih (c.send data).1 hset
      refine ⟨c', hc', ?_⟩
      rw [haccepted, Connection.accepted_send, List.append_assoc]
      simp
    · have hindex := ConnectionId.index_ne hj
      cases hd : cs[j.index]? with
      | none => exact ih false hc
      | some d =>
        have hset : (cs.set j.index (d.send data).2)[i.index]? = some c :=
          (List.getElem?_set_ne hindex).trans hc
        obtain ⟨c', hc', haccepted⟩ := ih (d.send data).1 hset
        refine ⟨c', hc', ?_⟩
        rw [haccepted]
        simp [hj]
  | disconnect j next ih =>
    rw [run, acceptedBy]
    by_cases hj : j = i
    · subst hj
      rw [hc]
      have hset : (cs.set j.index c.disconnect.2)[j.index]? = some c.disconnect.2 :=
        List.getElem?_set_self (List.getElem?_eq_some_iff.mp hc).1
      obtain ⟨c', hc', haccepted⟩ := ih c.disconnect.1 hset
      rw [(Connection.disconnect_eq c).2.1] at haccepted
      exact ⟨c', hc', haccepted⟩
    · have hindex := ConnectionId.index_ne hj
      cases hd : cs[j.index]? with
      | none => exact ih false hc
      | some d => exact ih d.disconnect.1 ((List.getElem?_set_ne hindex).trans hc)

/-! ## What was received

The invariants are started with a connection that nobody has sent over, and kept by every change. -/

/-- What a connection keeps in every run. -/
theorem Handler.log_faithful (handler : Handler σ τ) (moves : List (Move τ)) (shared : σ)
    {i : ConnectionId} {c : Connection (Logged Call τ)}
    (hc : (handler.recorded.log moves shared).connection? i = some c) :
    c.Faithful ∧ (c.phase ≠ .disconnected → c.Attended ∧ c.Balanced) := by
  refine Handler.log_keeps
    (P := fun _ c => c.Faithful ∧ (c.phase ≠ .disconnected → c.Attended ∧ c.Balanced))
    (fun sizing kept => ?_) (fun _ _ _ _ hP hchange => ?_) hc
  · refine ⟨⟨List.nil_prefix, List.not_mem_nil, List.not_mem_nil, fun _ h => (nomatch h),
      fun h => (nomatch h), fun _ h => absurd h List.not_mem_nil⟩, fun _ => ⟨?_, rfl, rfl⟩⟩
    exact ⟨rfl, fun hne => absurd rfl hne, fun hne => absurd rfl hne, fun hne => absurd rfl hne⟩
  · obtain ⟨hfaithful, hbalanced⟩ := hchange.sending hP.1 hP.2
    exact ⟨hfaithful,
      fun hnot => ⟨hchange.attended (fun h => (hP.2 h).1) hnot, hbalanced hnot⟩⟩

/-- **Sending is exact.**  In every run, whatever callbacks do and whoever sends while a batch is
being written, the peer of a connection has received the beginning of what was accepted, in order.
As long as the connection is not over, the rest is left of the batch or queued, and where anything
is queued a flush is under way or a wake-up is left; so where the connection is still connected when
it has nothing left to do, the peer has received all of it, and the handler was told how much that
is. What was accepted are the payloads for which the answer to sending them was yes: a payload that
is not accepted changes nothing, and an empty one is not queued and never told of. -/
theorem Handler.log_sending (handler : Handler σ τ) (moves : List (Move τ)) (shared : σ)
    {i : ConnectionId} {c : Connection (Logged Call τ)}
    (hc : (handler.recorded.log moves shared).connection? i = some c) :
    c.socket.delivered <+: c.accepted.flatten ∧
    (c.phase ≠ .disconnected →
      c.socket.delivered ++ c.sender.batch.flatten ++ c.queue.flatten = c.accepted.flatten ∧
        (c.queue ≠ [] → c.sender.woken = true ∨ c.sender.stage ≠ .waiting)) ∧
    (c.phase = .connected → c.next? = none →
      c.socket.delivered = c.accepted.flatten ∧ c.queue = [] ∧ c.sender.batch = [] ∧
        Call.sentTotal c.session.log = c.accepted.flatten.length) ∧
    (∀ {α : Type} (a : Action α), ∃ c',
      ((handler.recorded.log moves shared).act a).2.connection? i = some c' ∧
        c'.accepted =
          c.accepted ++ a.acceptedBy i (handler.recorded.log moves shared).connections) ∧
    (∀ data, (c.send data).1 = false → (c.send data).2 = c) ∧
    (c.phase = .connected → c.send [] = (true, { c with accepted := c.accepted ++ [[]] })) ∧
    ∀ count, Call.sent count ∈ c.session.log → 0 < count := by
  obtain ⟨hfaithful, hgoes⟩ := handler.log_faithful moves shared hc
  refine ⟨hfaithful.delivered, fun hnot => ?_, fun hphase hquiet => ?_,
    fun a => a.accepted_run hc, fun data h => ?_, fun hphase => ?_, hfaithful.told⟩
  · obtain ⟨hattended, hbalanced⟩ := hgoes hnot
    refine ⟨hbalanced.bytes, fun hqueue => ?_⟩
    have hactive := hattended.isActive_of_queue hqueue
    simpa [Sender.isActive] using hactive
  · -- a sending side that waits has left nothing behind
    obtain ⟨hattended, hbalanced⟩ := hgoes (by rw [hphase]; decide)
    exact hbalanced.of_not_isActive hattended (Connection.idle_of_next? hphase hquiet)
  · by_cases hphase : c.phase = .connected
    · rw [Connection.send_of_connected hphase] at h
      cases h
    · rw [Connection.send_of_ne hphase]
  · rw [Connection.send_of_connected hphase]
    rfl

/-- A handler that sends three bytes in the beginning. -/
def Handler.welcoming : Handler Unit Unit where
  onConnected i := do let _ ← Callback.perform (.sendTo i [1, 2, 3])
  onReceived _ _ := pure 0

/-- A connection is made and started, and the socket takes two bytes at a time.  While the first
batch is being written, nothing and one byte are sent. -/
def Move.oneByte : List (Move Unit) :=
  [.create {} (), .start ⟨0⟩ ⟨.v4 ⟨127, 0, 0, 1⟩, 4000⟩, .progress ⟨0⟩ .greet {}] ++
    .replicate 3 (.progress ⟨0⟩ .flush { write := fun _ => 2 }) ++
    [.send ⟨0⟩ [], .send ⟨0⟩ [4]] ++
    .replicate 6 (.progress ⟨0⟩ .flush { write := fun _ => 2 })

/-- What a callback and others send arrives in order. -/
theorem Handler.log_sending_welcoming :
    ∃ c, (Handler.welcoming.recorded.log Move.oneByte ()).connection? ⟨0⟩ = some c ∧
      c.socket.delivered = [1, 2, 3, 4] ∧ c.socket.delivered = c.accepted.flatten ∧
        Call.sentTotal c.session.log = c.accepted.flatten.length := by
  have hrun : ((Handler.welcoming.recorded.log Move.oneByte ()).connection? ⟨0⟩).map
      (fun c => (c.phase, c.next?, c.socket.delivered)) =
        some (.connected, none, [1, 2, 3, 4]) := by decide +kernel
  obtain ⟨c, hc, hstate⟩ := Option.map_eq_some_iff.mp hrun
  obtain ⟨hphase, hquiet, hdelivered⟩ : c.phase = .connected ∧ c.next? = none ∧
      c.socket.delivered = [1, 2, 3, 4] := by simpa using hstate
  obtain ⟨_, _, hall, _⟩ := Handler.log_sending Handler.welcoming Move.oneByte () hc
  obtain ⟨hexact, _, _, htold⟩ := hall hphase hquiet
  exact ⟨c, hc, hdelivered, hexact, htold⟩

end ChatLobby
