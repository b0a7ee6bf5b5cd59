import ChatLobby.Proofs.Recorder

/-!
# Receiving

A stream passes through a connection like this:

```
0          used           read              everything that the peer sent
+-----------+--------------+-------------------+
|  used up  |  receive     |  not read yet     |
|           |  buffer      |                   |
+-----------+--------------+-------------------+
```

Each receipt moves `read` forward, hands over what lies between the two positions, and moves `used`
by what the handler answers.  `Call.Receipts` says this of a log, and `Connection.Reads` relates
the two positions to what a connection holds.

* `Stands.of_change`: the picture above stays true, whatever is done to the connection.
* `Handler.log_receivesExactly`: so connections receive exactly what their peers send.
-/

namespace ChatLobby

variable {σ τ : Type}

/-! ## Receipts

A log of calls can be read as a walk through the stream: each receipt begins where the handler left
off and ends where the reads have got to.  `Call.Receipts` is that walk.  Different from a list of
cuts, it says which bytes the handler was given, so that a byte that comes twice or is left out has
no place in it. -/

/-- How many bytes an answer uses up. -/
def usedBy : Option (Except ConnectionError Nat) → Nat
  | some (.ok used) => used
  | some (.error _) | none => 0

/-- Whether bytes were received. -/
def Call.isReceipt : Call → Bool
  | .received .. => true
  | .connected | .sent _ | .disconnected _ => false

/-- `Call.Receipts S log used read`: the receipts of `log` brought the first `read` bytes of `S`, of
which the handler used up the first `used`.  Each of them was given the bytes from what was used up
before to what was read by then, and read on. -/
inductive Call.Receipts (S : Bytes) : List Call → (used read : Nat) → Prop
  | nil : Receipts S [] 0 0
  | received {log used read} (read' : Nat) (answer) : Receipts S log used read → read < read' →
      read' ≤ S.length →
      Receipts S (log ++ [.received ((S.take read').drop used) answer]) (used + usedBy answer) read'
  | other {log used read} (call : Call) : Receipts S log used read → call.isReceipt = false →
      Receipts S (log ++ [call]) used read

namespace Call.Receipts

variable {S : Bytes} {log : List Call} {used read : Nat}

theorem le_length (h : Receipts S log used read) : read ≤ S.length := by
  induction h with
  | nil => exact Nat.zero_le _
  | received _ _ _ _ hle => exact hle
  | other _ _ _ ih => exact ih

/-- Receipts stay what they were when the stream goes on. -/
theorem append (h : Receipts S log used read) (more : Bytes) :
    Receipts (S ++ more) log used read := by
  induction h with
  | nil => exact .nil
  | @received log used read read' answer _ hlt hle ih =>
    have htake : (S ++ more).take read' = S.take read' := List.take_append_of_le_length hle
    rw [← htake]
    apply Receipts.received read' answer ih hlt
    rw [List.length_append]
    omega
  | other call _ hcall ih => exact .other call ih hcall

end Call.Receipts

/-! ## What a connection holds of the stream

The stream of the peer lies in three pieces: what is used up, what is in the receive buffer, and
what still is to be read.  `Reads` is about the log and the last of them, and holds to the end.
`Buffers` is about the receive buffer, and it breaks where a receipt fails, as nobody heeds its
answer then; that ends the connection. -/

namespace Connection

/-- `c.Reads S used read`: of `S`, which its peer sent, the connection has read the first `read`
bytes, the first `used` of which are used up. -/
structure Reads (c : Connection (Logged Call τ)) (S : Bytes) (used read : Nat) : Prop where
  receipts : Call.Receipts S c.session.log used read
  inbound : c.socket.inbound = S.drop read

/-- What was read and is not used up lies in the receive buffer. -/
structure Buffers (c : Connection (Logged Call τ)) (S : Bytes) (used read : Nat) : Prop where
  le : used ≤ read
  view : c.cursor.view = (S.take read).drop used

variable {c c' d : Connection (Logged Call τ)} {S : Bytes} {used read : Nat}

/-- What was read and what is to be read is all there is. -/
theorem Reads.length (hc : c.Reads S used read) : read + c.socket.inbound.length = S.length := by
  have hle := hc.receipts.le_length
  rw [hc.inbound, List.length_drop]
  omega

theorem Reads.of_touched (h : c.Touched c') (hc : c.Reads S used read) :
    c'.Reads S used read := by
  constructor
  · rw [h.session_eq]
    exact hc.receipts
  · rw [h.socket_eq]
    exact hc.inbound

theorem Buffers.of_touched (h : c.Touched c') (hc : c.Buffers S used read) :
    c'.Buffers S used read := by
  refine ⟨hc.le, ?_⟩
  rw [h.cursor_eq]
  exact hc.view

/-- Whatever is logged, if it is no receipt. -/
theorem Reads.of_recorded {call : Call} (h : c.Recorded [call] c') (hc : c.Reads S used read)
    (hcall : call.isReceipt = false) : c'.Reads S used read := by
  obtain ⟨kept, htouched⟩ := h
  apply Reads.of_touched htouched
  exact ⟨.other call hc.receipts hcall, hc.inbound⟩

theorem Buffers.of_recorded {calls : List Call} (h : c.Recorded calls c')
    (hc : c.Buffers S used read) : c'.Buffers S used read := by
  obtain ⟨kept, htouched⟩ := h
  exact .of_touched htouched ⟨hc.le, hc.view⟩

variable {handler : Handler σ τ} {i : ConnectionId} {end? : Option DisconnectReason}
  {outcome : DisconnectReason}

/-- What is handed over in a receipt are the bytes between what was used up before and what was
read by then. -/
theorem Buffers.fetched {n : Nat} {cursor : Cursor} (h : c.Fetches n cursor)
    (hc : c.Reads S used read) (hb : c.Buffers S used read) :
    cursor.view = (S.take (read + n)).drop used := by
  have hused : used ≤ (S.take read).length := by
    have hle := hc.receipts.le_length
    have hle' := hb.le
    rw [List.length_take]
    omega
  -- the unread bytes come first, and those that were fetched follow them
  rw [h.view_eq, hb.view, hc.inbound, List.take_add, List.drop_append_of_le_length hused]

/-- A receipt, before the handler's answer is heeded. -/
theorem Reads.of_receipt {n : Nat} {cursor : Cursor} {answer : Option (Except ConnectionError Nat)}
    (h : c.Fetches n cursor)
    (hleads : Callback.Leads (handler.recorded.onReceived i cursor.view) i (c.fetched n cursor)
      answer c') (hc : c.Reads S used read) (hb : c.Buffers S used read) :
    c'.Reads S (used + usedBy answer) (read + n) := by
  have hrecorded := Recorded.of_onReceived hleads
  have hlength := hc.length
  have hpos := h.pos
  have hle := h.le_length
  constructor
  · rw [hrecorded.log_eq, hb.fetched h hc]
    exact .received (read + n) answer hc.receipts (by omega) (by omega)
  · obtain ⟨kept, htouched⟩ := hrecorded
    rw [htouched.socket_eq]
    show c.socket.inbound.drop n = _
    rw [hc.inbound, List.drop_drop]

theorem Progresses.reads (h : Progresses handler.recorded i c d end?) (hc : c.Reads S used read)
    (hb : c.Buffers S used read) :
    ∃ used' read', d.Reads S used' read' ∧ (end? = none → d.Buffers S used' read') := by
  cases h with
  | greet _ hleads =>
    have hrecorded := Recorded.of_onConnected hleads
    exact ⟨used, read, .of_recorded hrecorded ⟨hc.receipts, hc.inbound⟩ rfl,
      fun _ => .of_recorded hrecorded ⟨hb.le, hb.view⟩⟩
  | obey | endOfStream | brokenOff => exact ⟨used, read, hc, fun _ => hb⟩
  | @receive _ n cursor count cursor' _ hfetches hleads hconsume =>
    have hreads := hc.of_receipt hfetches hleads hb
    have hview := hb.fetched hfetches hc
    refine ⟨used + count, read + n, ⟨hreads.receipts, hreads.inbound⟩, fun _ => ⟨?_, ?_⟩⟩
    · -- the handler can use up no more than it was given
      have hcount := Cursor.le_of_consume hconsume
      have hlength := hreads.receipts.le_length
      have hle := hb.le
      rw [← Cursor.length_view, hview, List.length_drop, List.length_take] at hcount
      omega
    · show cursor'.view = _
      rw [Cursor.view_consume hconsume, hview, List.drop_drop]
  | @receiveFails _ n cursor answer cause _ hfetches hleads _ =>
    exact ⟨used + usedBy answer, read + n, hc.of_receipt hfetches hleads hb, fun h => nomatch h⟩
  | sends | sendFails =>
    -- the sending side leaves what was received alone
    rw [(sendsOn ..).rest_eq]
    exact ⟨used, read, ⟨hc.receipts, hc.inbound⟩, fun _ => ⟨hb.le, hb.view⟩⟩
  | reports _ _ hleads =>
    have hrecorded := Recorded.of_onSent hleads
    rw [(sendsOn ..).rest_eq] at hrecorded
    exact ⟨used, read, .of_recorded hrecorded ⟨hc.receipts, hc.inbound⟩ rfl,
      fun _ => .of_recorded hrecorded ⟨hb.le, hb.view⟩⟩

theorem TornDown.reads (h : TornDown handler.recorded i outcome c c') (hc : c.Reads S used read) :
    c'.Reads S used read ∧ c'.phase = .disconnected := by
  obtain ⟨answer, d, hleads, rfl⟩ := h
  have hrecorded := Recorded.of_onDisconnected hleads
  rw [shut_eq] at hrecorded
  have hd : d.Reads S used read := .of_recorded hrecorded ⟨hc.receipts, hc.inbound⟩ rfl
  exact ⟨⟨hd.receipts, hd.inbound⟩, rfl⟩

/-- Where a connection stands in what its peer sent. -/
structure Stands (S : Bytes) (c : Connection (Logged Call τ)) (used read : Nat) : Prop where
  reads : c.Reads S used read
  buffers : c.phase ≠ .disconnected → c.Buffers S used read
  empty : c.phase = .pending → c.cursor.view = []

theorem Stands.of_peerSends {data : Bytes} (hpeer : c.hasPeer = true) (hc : Stands S c used read) :
    Stands (S ++ data) (c.peerSends data) used read := by
  have hle := hc.reads.receipts.le_length
  have hinbound : (c.peerSends data).socket.inbound = c.socket.inbound ++ data := by
    rw [Connection.peerSends, if_pos hpeer]
  have hreads : c.socket.inbound ++ data = (S ++ data).drop read := by
    rw [hc.reads.inbound, List.drop_append_of_le_length hle]
  rw [peerSends_eq]
  refine ⟨⟨hc.reads.receipts.append data, hinbound.trans hreads⟩, fun hnot => ?_, hc.empty⟩
  obtain ⟨hused, hview⟩ := hc.buffers hnot
  refine ⟨hused, ?_⟩
  rw [List.take_append_of_le_length hle]
  exact hview

/-- **Every move** leaves a connection standing somewhere in what its peer sent. -/
theorem Stands.of_change {w : Bytes} (h : Change handler.recorded i w c c')
    (hc : Stands S c used read) : ∃ used' read', Stands (S ++ w) c' used' read' := by
  cases h with
  | touched htouched =>
    rw [List.append_nil]
    refine ⟨used, read, hc.reads.of_touched htouched, fun hnot => ?_, fun hpending => ?_⟩
    · apply Buffers.of_touched htouched
      apply hc.buffers
      intro hover
      rw [htouched.eq_of_ending (.inr hover)] at hnot
      exact hnot hover
    · rw [htouched.cursor_eq]
      exact hc.empty (htouched.pending_of_pending hpending)
  | started hstart =>
    rw [List.append_nil]
    unfold start at hstart
    split at hstart
    · next hpending =>
      cases hstart
      obtain ⟨hle, hview⟩ := hc.buffers (by rw [hpending]; decide)
      refine ⟨used, read, ⟨hc.reads.receipts, hc.reads.inbound⟩, fun _ => ⟨hle, ?_⟩,
        fun h => nomatch h⟩
      -- both the old buffer and the new one are empty
      rw [← hview, hc.empty hpending]
      exact Cursor.view_ofCapacity _
    · cases hstart
  | peerSends _ hpeer => exact ⟨used, read, hc.of_peerSends hpeer⟩
  | peerEnds how =>
    have hinbound : (c.peerEnds how).socket.inbound = c.socket.inbound := by
      unfold Connection.peerEnds
      split <;> rfl
    rw [List.append_nil, peerEnds_eq]
    refine ⟨used, read, ⟨hc.reads.receipts, hinbound.trans hc.reads.inbound⟩, fun hnot => ?_,
      hc.empty⟩
    exact ⟨(hc.buffers hnot).le, (hc.buffers hnot).view⟩
  | goesOn hprogresses =>
    have hbuffers := hc.buffers hprogresses.not_over
    obtain ⟨used', read', hreads', hbuffers'⟩ := hprogresses.reads hc.reads hbuffers
    rw [List.append_nil]
    refine ⟨used', read', hreads', fun _ => hbuffers' rfl, fun hpending => ?_⟩
    rcases hprogresses.phase_alive with h | h <;> cases hpending.symm.trans h
  | ends hprogresses hdown =>
    have hbuffers := hc.buffers hprogresses.not_over
    obtain ⟨used', read', hreads', _⟩ := hprogresses.reads hc.reads hbuffers
    obtain ⟨hreads, hover⟩ := hdown.reads hreads'
    rw [List.append_nil]
    exact ⟨used', read', hreads, fun hnot => absurd hover hnot, fun h => nomatch hover.symm.trans h⟩

/-- A connection that goes on and has nothing left to do has read everything. -/
theorem inbound_of_next? {c : Connection τ} (hphase : c.phase = .connected)
    (hquiet : c.next? = none) : c.socket.inbound = [] := by
  unfold next? at hquiet
  grind

/-! ## Receiving exactly

The statement about all runs is put together from where the connection stands.  That fetching works
at all does not depend on the run (`Connection.fetch_spec`). -/

/-- `c.ReceivesExactly S`: every receipt brought what its peer sent of `S`, in order and without
gaps; the receive buffer has room for more, and what is fetched into it or used up of it never
fails; and where the connection goes on but has nothing left to do, all of `S` was read. -/
structure ReceivesExactly (c : Connection (Logged Call τ)) (S : Bytes) : Prop where
  receipts : ∃ used read, Call.Receipts S c.session.log used read ∧
    read + c.socket.inbound.length = S.length ∧ c.socket.inbound = S.drop read
  fetch : ∀ pace, ∃ n cursor, c.fetch pace = .ok (c.fetched n cursor) ∧
    0 < (c.cursor.compact (max c.sizing.minSpace 1)).free ∧ (c.socket.inbound ≠ [] → 0 < n) ∧
    ∀ used ≤ cursor.readable, ∃ rest, cursor.consume used = .ok rest
  quiet : c.phase = .connected → c.next? = none →
    ∃ used, Call.Receipts S c.session.log used S.length

/-- What a connection receives, in terms of where it stands. -/
theorem Stands.receivesExactly (hc : Stands S c used read) : c.ReceivesExactly S where
  receipts := ⟨used, read, hc.reads.receipts, hc.reads.length, hc.reads.inbound⟩
  fetch pace := by
    obtain ⟨n, cursor, hfetch, _, _, hfree, hpos⟩ := c.fetch_spec pace
    exact ⟨n, cursor, hfetch, hfree, hpos, fun used hused => Cursor.consume_of_le hused⟩
  quiet hphase hquiet := by
    have hlength := hc.reads.length
    rw [inbound_of_next? hphase hquiet, List.length_nil, Nat.add_zero] at hlength
    rw [← hlength]
    exact ⟨used, hc.reads.receipts⟩

end Connection

/-- **In every run, connections receive exactly what their peers send.** -/
theorem Handler.log_receivesExactly (handler : Handler σ τ) (moves : List (Move τ)) (shared : σ)
    {i : ConnectionId} {c : Connection (Logged Call τ)}
    (hc : (handler.recorded.log moves shared).connection? i = some c) :
    c.ReceivesExactly (Hub.writtenIn handler i moves { shared }) := by
  rw [← handler.logs_recorded.writtenIn_log]
  obtain ⟨used, read, hstands⟩ : ∃ used read, Connection.Stands _ c used read := by
    refine Handler.log_keeps (P := fun S c => ∃ used read, Connection.Stands S c used read)
      (fun sizing kept => ⟨0, 0, ⟨.nil, rfl⟩, fun _ => ⟨Nat.le_refl 0, ?_⟩, fun _ => ?_⟩)
      (fun S w c c' hP hchange => ?_) hc
    · exact Cursor.view_ofCapacity 0
    · exact Cursor.view_ofCapacity 0
    · obtain ⟨used, read, hstands⟩ := hP
      exact hstands.of_change hchange
  exact hstands.receivesExactly

end ChatLobby
