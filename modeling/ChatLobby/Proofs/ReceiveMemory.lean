import ChatLobby.Proofs.CursorQueue
import ChatLobby.Proofs.FrameSoundness
import ChatLobby.Proofs.FramedReceiving

/-!
# How much a connection keeps of what it received

A peer may send what it likes, but what a decoder leaves unread is short: it is less than a prefix,
or less than a frame of acceptable size.  The receive buffer grows only where the unread bytes and
the room for the next receive do not fit it, and then it at most doubles what they need.

* `Decoder.length_rest_le`: what a decode leaves.
* `Cursor.capacity_compact_le`: how far the storage grows.
* `Connection.Bounded`: the two limits, with the answers that were logged; what any change keeps.
* `PacketHandler.log_bounded`: so the limits hold in every run.
-/

namespace ChatLobby

variable {σ τ : Type}

/-! ## The limits

A decoder waits for more bytes in two cases only: it does not have a whole prefix yet, or the prefix
declares an acceptable size and the frame is not all there.  Either way one byte less than that is
the most that it can be left with. -/

/-- The most that is left unread by frames of at most `maxFrame` bytes. -/
def FramePolicy.unreadLimit (p : FramePolicy) : Nat := max p.maxFrame p.width.bytes - 1

/-- The most storage that is needed, if at most `unread` bytes are left unread. -/
def ReceiveSizing.capacityLimit (s : ReceiveSizing) (unread : Nat) : Nat :=
  max s.bufferSize (2 * (unread + max s.minSpace 1))

/-- A decode without a fault leaves less than a prefix, or less than an acceptable frame. -/
theorem Decoder.length_rest_le {p : FramePolicy} {b : Bytes}
    (h : ((ofPolicy p).scan b).fault = none) :
    ((ofPolicy p).scan b).rest.length ≤ p.unreadLimit := by
  rw [FramePolicy.unreadLimit]
  rcases head_eq_incomplete_iff.mp (head_rest_of_no_fault h) with hshort | ⟨hfault, hlt⟩
  · have hprefix : ((ofPolicy p).scan b).rest.length < p.width.bytes := hshort
    omega
  · have hsize : (ofPolicy p).declaredSize ((ofPolicy p).scan b).rest ≤ p.maxFrame :=
      (sizeFault?_eq_none_iff.mp hfault).2
    omega

/-! ## How the storage grows

The two limits are tied: a buffer doubles what it needs, and what it needs is what a decode has left
and the room that the configuration asks for. -/

namespace Cursor

variable {c d : Cursor}

theorem readable_ofCapacity (capacity : Nat) : (ofCapacity capacity).readable = 0 := rfl

theorem capacity_ofCapacity (capacity : Nat) : (ofCapacity capacity).capacity = capacity :=
  List.length_replicate

/-- To use bytes up frees no storage. -/
theorem capacity_consume {n : Nat} (h : c.consume n = .ok d) : d.capacity = c.capacity := by
  unfold consume at h
  split at h
  · cases h
    rfl
  · cases h

/-- **Storage grows only when it is too small**, and then to no more than twice what is needed. -/
theorem capacity_compact_le (c : Cursor) (minFree : Nat) :
    (c.compact minFree).capacity ≤ max c.capacity (2 * (c.readable + minFree)) := by
  rw [capacity_compact]
  split <;> omega

end Cursor

/-! ## What the answers of a decoder say

What a handler answers to a receipt is only known from its decoder if the whole callback worked.
Then each part of it worked, and the last part answers what the scan has used. -/

section Answers

variable {i : ConnectionId}

/-- Where a sequence of callbacks answers well, so does the last of them. -/
theorem Callback.Leads.of_except_bind {α β : Type} {x : ExceptT ConnectionError (Callback σ τ) α}
    {f : α → ExceptT ConnectionError (Callback σ τ) β} {c c' : Connection τ} {y : β}
    (h : Callback.Leads (x >>= f).run i c (some (.ok y)) c') :
    ∃ a d, Callback.Leads (f a).run i d (some (.ok y)) c' := by
  obtain ⟨s, s', t, d, hleads, rfl⟩ := h
  obtain ⟨⟨r₁, s₁, t₁⟩, d₁, -, hsecond⟩ := hleads.of_bind
  rcases r₁ with _ | cause | a
  · cases hsecond
  · cases hsecond
  · exact ⟨a, d₁.withSession t₁, s₁, s', t, d.withSession t₁, hsecond.withSession t₁, rfl⟩

/-- A decode that ends well answers everything but the rest of the scan. -/
theorem Callback.Leads.of_decode {d : Decoder} {data : Bytes} {c c' : Connection τ} {used : Nat}
    {onFrame : Frame → ExceptT ConnectionError (Callback σ τ) Unit}
    (h : Callback.Leads (d.decode data onFrame) i c (some (.ok used)) c') :
    (d.scan data).fault = none ∧ used = data.length - (d.scan data).rest.length := by
  cases hfault : (d.scan data).fault with
  | some cause =>
    rw [Decoder.decode_of_fault onFrame hfault] at h
    obtain ⟨_, _, _, _, _, _, hthrow, _⟩ := Callback.Leads.of_except_bind h
    cases hthrow
  | none =>
    rw [Decoder.decode_of_no_fault onFrame hfault] at h
    obtain ⟨_, _, _, _, _, _, hpure, _⟩ := Callback.Leads.of_except_bind h
    cases hpure
    exact ⟨rfl, rfl⟩

end Answers

/-! ## The limits in a run

A receipt that fails may leave the buffer with more than the limit.  So the invariant of the log
(`Frugal`) is kept by every move, and the one of the buffer only until the end, where the buffer is
given up. -/

namespace Connection

/-- An answer to `data` uses up some of it and leaves at most `limit` bytes. -/
def Leaves (limit : Nat) (data : Bytes) (used : Nat) : Prop :=
  used ≤ data.length ∧ data.length - used ≤ limit

/-- Every answer in the log has left at most `limit` bytes. -/
def Frugal (limit : Nat) (c : Connection (Logged Call τ)) : Prop :=
  ∀ data used, Call.received data (some (.ok used)) ∈ c.session.log → Leaves limit data used

/-- `c.Bounded limit`: at most `limit` bytes were left unread, every time and now, and the receive
buffer is no larger than that requires. -/
structure Bounded (limit : Nat) (c : Connection (Logged Call τ)) : Prop where
  answers : c.Frugal limit
  readable_le : c.cursor.readable ≤ limit
  capacity_le : c.cursor.capacity ≤ c.sizing.capacityLimit limit

/-- Nobody changes the sizes that a connection was made with. -/
theorem Touched.sizing_eq {c c' : Connection τ} (h : c.Touched c') : c'.sizing = c.sizing := by
  rw [h.rest_eq]

variable {c c' d : Connection (Logged Call τ)} {limit : Nat} {i : ConnectionId}

/-- The room for the next receive stays within the limit. -/
theorem Bounded.capacity_roomy_le (hc : c.Bounded limit) :
    c.roomy.capacity ≤ c.sizing.capacityLimit limit := by
  have hgrown := c.cursor.capacity_compact_le (max c.sizing.minSpace 1)
  have hcapacity := hc.capacity_le
  have hreadable := hc.readable_le
  rw [ReceiveSizing.capacityLimit] at *
  rw [roomy]
  omega

/-- Others put nothing into the receive buffer. -/
theorem Bounded.of_touched (h : c.Touched c') (hc : c.Bounded limit) : c'.Bounded limit := by
  obtain ⟨hanswers, hreadable, hcapacity⟩ := hc
  constructor
  · rw [Frugal, h.session_eq]
    exact hanswers
  · rwa [h.cursor_eq]
  · rwa [h.cursor_eq, h.sizing_eq]

/-- A call that is logged, if it left no more than it may. -/
theorem Frugal.of_recorded {call : Call} (h : c.Recorded [call] c') (hc : c.Frugal limit)
    (hcall : ∀ data used, call = .received data (some (.ok used)) → Leaves limit data used) :
    c'.Frugal limit := by
  intro data used hmem
  rw [h.log_eq, List.mem_append, List.mem_singleton] at hmem
  rcases hmem with hmem | hmem
  · exact hc data used hmem
  · exact hcall data used hmem.symm

theorem Recorded.sizing_eq {calls : List Call} (h : c.Recorded calls c') :
    c'.sizing = c.sizing := by
  obtain ⟨kept, htouched⟩ := h
  exact htouched.sizing_eq

/-- Whatever is logged, if it is no receipt. -/
theorem Bounded.of_recorded {call : Call} (h : c.Recorded [call] c') (hc : c.Bounded limit)
    (hcall : call.isReceipt = false) : c'.Bounded limit where
  answers := by
    apply hc.answers.of_recorded h
    rintro data used rfl
    cases hcall
  readable_le := by
    rw [h.cursor_eq]
    exact hc.readable_le
  capacity_le := by
    rw [h.cursor_eq, h.sizing_eq]
    exact hc.capacity_le

variable {handler : PacketHandler σ τ} {p : FramePolicy}

/-- A handler of frames that answers well leaves what its decoder leaves. -/
theorem leaves_of_framed {data : Bytes} {used : Nat}
    (h : Callback.Leads ((handler.framed p).recorded.onReceived i data) i c (some (.ok used)) c') :
    Leaves p.unreadLimit data used := by
  obtain ⟨-, hleads⟩ := Callback.Leads.of_recording (fun answer => [Call.received data answer])
    ((handler.framed p).onReceived i data).run h
  have hdecode : Callback.Leads ((Decoder.ofPolicy p).decode data (handler.onPacket i)) i
      (c.withSession c.session.kept) (some (.ok used)) (c'.withSession c'.session.kept) := hleads
  obtain ⟨hfault, rfl⟩ := hdecode.of_decode
  have hrest := Decoder.length_rest_le hfault
  have hcut := congrArg List.length ((Decoder.ofPolicy p).scan_append_rest data)
  rw [List.length_append] at hcut
  exact ⟨Nat.sub_le _ _, by omega⟩

/-- A receipt, before the handler's answer is heeded. -/
theorem Bounded.of_receipt {n : Nat} {cursor : Cursor}
    {answer : Option (Except ConnectionError Nat)} (h : c.Fetches n cursor)
    (hleads : Callback.Leads ((handler.framed p).recorded.onReceived i cursor.view) i
      (c.fetched n cursor) answer c') (hc : c.Bounded p.unreadLimit) :
    c'.Frugal p.unreadLimit ∧ c'.sizing = c.sizing ∧
      cursor.capacity ≤ c.sizing.capacityLimit p.unreadLimit := by
  have hrecorded := Recorded.of_onReceived hleads
  have hfetched : (c.fetched n cursor).Frugal p.unreadLimit := hc.answers
  refine ⟨hfetched.of_recorded hrecorded fun data used heq => ?_, hrecorded.sizing_eq, ?_⟩
  · cases heq
    exact leaves_of_framed hleads
  · rw [h.capacity_eq]
    exact hc.capacity_roomy_le

/-- Whatever a connection does by itself, its answers leave little; and as long as it goes on, so do
the bytes that it holds. -/
theorem Progresses.bounded {end? : Option DisconnectReason}
    (h : Progresses (handler.framed p).recorded i c d end?) (hc : c.Bounded p.unreadLimit) :
    d.Frugal p.unreadLimit ∧ (end? = none → d.Bounded p.unreadLimit) := by
  cases h with
  | greet _ hleads =>
    have hbounded : d.Bounded p.unreadLimit :=
      .of_recorded (Recorded.of_onConnected hleads) ⟨hc.answers, hc.readable_le, hc.capacity_le⟩ rfl
    exact ⟨hbounded.answers, fun _ => hbounded⟩
  | obey | endOfStream | brokenOff => exact ⟨hc.answers, fun _ => hc⟩
  | @receive _ n cursor used cursor' _ hfetches hleads hconsume =>
    obtain ⟨hfrugal, hsizing, hcapacity⟩ := hc.of_receipt hfetches hleads
    refine ⟨hfrugal, fun _ => ⟨hfrugal, ?_, ?_⟩⟩
    · -- what stays in the buffer is what the answer has left
      obtain ⟨-, hleft⟩ := leaves_of_framed hleads
      show cursor'.readable ≤ p.unreadLimit
      rwa [← Cursor.length_view, Cursor.view_consume hconsume, List.length_drop]
    · show cursor'.capacity ≤ _
      rw [Cursor.capacity_consume hconsume, hsizing]
      exact hcapacity
  | receiveFails _ hfetches hleads _ =>
    exact ⟨(hc.of_receipt hfetches hleads).1, fun h => nomatch h⟩
  | sends | sendFails =>
    rw [(sendsOn ..).rest_eq]
    exact ⟨hc.answers, fun _ => ⟨hc.answers, hc.readable_le, hc.capacity_le⟩⟩
  | reports _ _ hleads =>
    have hrecorded := Recorded.of_onSent hleads
    rw [(sendsOn ..).rest_eq] at hrecorded
    have hbounded : d.Bounded p.unreadLimit :=
      .of_recorded hrecorded ⟨hc.answers, hc.readable_le, hc.capacity_le⟩ rfl
    exact ⟨hbounded.answers, fun _ => hbounded⟩

/-- A connection without a receive buffer. -/
theorem Frugal.bounded {capacity : Nat} (hc : c.Frugal limit)
    (hcursor : c.cursor = .ofCapacity capacity) (hcapacity : capacity ≤ c.sizing.bufferSize) :
    c.Bounded limit where
  answers := hc
  readable_le := by
    rw [hcursor, Cursor.readable_ofCapacity]
    exact Nat.zero_le _
  capacity_le := by
    rw [hcursor, Cursor.capacity_ofCapacity]
    exact Nat.le_trans hcapacity (Nat.le_max_left _ _)

/-- At the end the buffer is given up, and with it all that it held. -/
theorem TornDown.bounded {handler : Handler σ τ} {outcome : DisconnectReason}
    (h : TornDown handler.recorded i outcome c c') (hc : c.Frugal limit) : c'.Bounded limit := by
  obtain ⟨answer, d, hleads, rfl⟩ := h
  have hrecorded := Recorded.of_onDisconnected hleads
  rw [shut_eq] at hrecorded
  have hd : d.Frugal limit := Frugal.of_recorded hrecorded hc fun _ _ heq => nomatch heq
  exact Frugal.bounded hd rfl (Nat.zero_le _)

/-- **Every move** keeps a connection within its limits. -/
theorem Bounded.of_change {w : Bytes} (h : Change (handler.framed p).recorded i w c c')
    (hc : c.Bounded p.unreadLimit) : c'.Bounded p.unreadLimit := by
  cases h with
  | touched htouched => exact hc.of_touched htouched
  | started hstart =>
    unfold start at hstart
    split at hstart
    · cases hstart
      exact Frugal.bounded hc.answers rfl (Nat.le_refl _)
    · cases hstart
  | peerSends =>
    rw [peerSends_eq]
    exact ⟨hc.answers, hc.readable_le, hc.capacity_le⟩
  | peerEnds =>
    rw [peerEnds_eq]
    exact ⟨hc.answers, hc.readable_le, hc.capacity_le⟩
  | goesOn hprogresses => exact (hprogresses.bounded hc).2 rfl
  | ends hprogresses hdown => exact hdown.bounded (hprogresses.bounded hc).1

theorem bounded_fresh (sizing : ReceiveSizing) (kept : τ) (limit : Nat) :
    Connection.Bounded limit { sizing, session := ({ kept } : Logged Call τ) } :=
  Frugal.bounded (fun _ _ hmem => nomatch hmem) rfl (Nat.zero_le _)

end Connection

/-- **Memory for what is received is bounded**, whatever peers send and however it comes.  After
every answer of a handler of frames less is left unread than the largest frame or the prefix has,
and so there is between receipts.  The receive buffer has its initial size or at most twice what is
left unread and the room for the next receive, also when that room has been made and when bytes have
come into it. -/
theorem PacketHandler.log_bounded (handler : PacketHandler σ τ) (p : FramePolicy)
    (moves : List (Move τ)) (shared : σ) (i : ConnectionId) (c : Connection (Logged Call τ))
    (hc : ((handler.framed p).recorded.log moves shared).connection? i = some c) :
    let unread := max p.maxFrame p.width.bytes - 1
    let limit := max c.sizing.bufferSize (2 * (unread + max c.sizing.minSpace 1))
    (∀ data used, Call.received data (some (.ok used)) ∈ c.session.log →
      used ≤ data.length ∧ data.length - used ≤ unread) ∧
    c.cursor.readable ≤ unread ∧
    c.cursor.capacity ≤ limit ∧
    (c.cursor.compact (max c.sizing.minSpace 1)).capacity ≤ limit ∧
    ∀ pace, ∃ n cursor, c.fetch pace = .ok (c.fetched n cursor) ∧ cursor.capacity ≤ limit := by
  have hbounded : c.Bounded p.unreadLimit :=
    Handler.log_keeps (P := fun _ c => c.Bounded p.unreadLimit)
      (fun sizing kept => Connection.bounded_fresh sizing kept _)
      (fun S w c c' hP hchange => hP.of_change hchange) hc
  have hroomy : c.roomy.capacity ≤ c.sizing.capacityLimit p.unreadLimit :=
    hbounded.capacity_roomy_le
  refine ⟨hbounded.answers, hbounded.readable_le, hbounded.capacity_le, hroomy, fun pace => ?_⟩
  obtain ⟨n, cursor, hfetch, -⟩ := c.fetch_spec pace
  refine ⟨n, cursor, hfetch, ?_⟩
  rw [Connection.capacity_of_fetch hfetch]
  exact hroomy

/-- Frames of at most eight bytes, and a peer that sends seven bytes of one and then waits. -/
theorem PacketHandler.log_bounded_waiting :
    ∃ c, ((PacketHandler.accepting.framed { maxFrame := 8 }).recorded.log
        [.create { bufferSize := 7, minSpace := 1 } (), .start ⟨0⟩ ⟨.v4 ⟨127, 0, 0, 1⟩, 4000⟩,
          .progress ⟨0⟩ .greet {}, .peerSends ⟨0⟩ [8, 0, 1, 1, 1, 1, 1],
          .progress ⟨0⟩ .receive {}] ()).connection? ⟨0⟩ = some c ∧
      c.cursor.readable = 7 ∧ (c.cursor.compact 1).capacity = 14 ∧
      c.cursor.readable ≤ 7 ∧ (c.cursor.compact 1).capacity ≤ 16 := by
  have hrun : (((PacketHandler.accepting.framed { maxFrame := 8 }).recorded.log
        [.create { bufferSize := 7, minSpace := 1 } (), .start ⟨0⟩ ⟨.v4 ⟨127, 0, 0, 1⟩, 4000⟩,
          .progress ⟨0⟩ .greet {}, .peerSends ⟨0⟩ [8, 0, 1, 1, 1, 1, 1],
          .progress ⟨0⟩ .receive {}] ()).connection? ⟨0⟩).map (fun c =>
        (c.sizing, c.cursor.readable, (c.cursor.compact 1).capacity)) =
      some ({ bufferSize := 7, minSpace := 1 }, 7, 14) := by decide +kernel
  obtain ⟨c, hc, hstate⟩ := Option.map_eq_some_iff.mp hrun
  obtain ⟨hsizing, hstate⟩ := Prod.mk.inj hstate
  obtain ⟨hreadable, hcapacity⟩ := Prod.mk.inj hstate
  obtain ⟨-, hunread, -, hroom, -⟩ := PacketHandler.log_bounded _ _ _ _ _ c hc
  rw [hsizing] at hroom
  exact ⟨c, hc, hreadable, hcapacity, hunread, hroom⟩

end ChatLobby
