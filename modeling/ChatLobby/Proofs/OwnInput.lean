import ChatLobby.Proofs.Relay

/-!
# What a session's own input does to it

Every packet that can be read is answered with success, and so leaves its session as alive as it
was, with one exception: what is said in a room is refused if the frame that would relay it is above
the maximum.  That frame carries the name of the speaker besides the line, so it may be too large
where the frame that came was not.  Where the maximum is 539 bytes or more it never is.

* `Hub.call_receive_eq`: what the lobby answers to a packet.
* `Server.own_input`: the answers after every run, and by what else a session ends that receives.
* `Server.line_ends_session`: the exception occurs.
-/

namespace ChatLobby

open History ServerPacket

/-! ## Answers

Whether a packet is refused is known from the session and the policy: what the others in the room do
does not come into it. -/

namespace Lobby

variable {p : FramePolicy} {s : Session} {packet : ClientPacket}

/-- The size of the frame that would relay what is said, if that is above the maximum. -/
def overflow? (p : FramePolicy) (s : Session) : ClientPacket → Option Nat
  | .enter .. | .leave => none
  | .chat text =>
    match s.room, s.name with
    | some _, some speaker =>
      if p.maxFrame < p.sizeOfPayload (chatRelay speaker text).payload then
        some (p.sizeOfPayload (chatRelay speaker text).payload)
      else none
    | _, _ => none

/-- What is wrong with a frame of a size that is above the maximum. -/
def tooLarge (p : FramePolicy) (size : Nat) : PacketError := .frame (.tooLarge size p.maxFrame)

/-- A line that overflows is refused as too large, and with that size. -/
theorem encode_of_overflow {relay : ServerPacket} (hlen : relay.payload.length ≤ longestPayload)
    (hover : p.maxFrame < p.sizeOfPayload relay.payload) :
    relay.encode p = .error (tooLarge p (p.sizeOfPayload relay.payload)) := by
  have hmax : ¬ Packet.maxPayload < relay.payload.length :=
    Nat.not_lt.mpr (Nat.le_trans hlen (by decide))
  rw [ServerPacket.encode, Packet.encodeFrame, if_neg hmax, FramePolicy.encode_of_tooLarge _ hover]
  rfl

/-- **The answer to a packet** that may be sent: only what would relay it can be wrong with it. -/
theorem reply_eq (hs : Named s) (hvalid : packet.Valid) :
    reply p s packet =
      match overflow? p s packet with
      | none => .ok ()
      | some size => .error (tooLarge p size) := by
  cases packet with
  | enter room name | leave => rfl
  | chat text =>
    rw [reply, overflow?]
    cases hroom : s.room with
    | none => rfl
    | some room =>
      cases hspeaker : s.name with
      | none => rfl
      | some speaker =>
        have hsmall : (chatRelay speaker text).Small := ⟨(hs speaker hspeaker).2, hvalid.2⟩
        have hlen := length_payload_le hsmall
        dsimp only
        by_cases hover : p.maxFrame < p.sizeOfPayload (chatRelay speaker text).payload
        · rw [if_pos hover, encode_of_overflow hlen hover]
          rfl
        · obtain ⟨data, hdata⟩ := exists_encode hlen (Nat.not_lt.mp hover)
          rw [if_neg hover, hdata]
          rfl

/-- An overflow is above the maximum, and not above what the longest line needs. -/
theorem overflow?_spec (hs : Named s) (hvalid : packet.Valid) {size : Nat}
    (h : overflow? p s packet = some size) :
    p.maxFrame < size ∧ size ≤ p.headerLength + longestPayload := by
  cases packet with
  | enter room name | leave => cases h
  | chat text =>
    rw [overflow?] at h
    split at h
    · next room speaker _ hspeaker =>
      have hsmall : (chatRelay speaker text).Small := ⟨(hs speaker hspeaker).2, hvalid.2⟩
      have hlen := length_payload_le hsmall
      split at h
      · next hover =>
        cases h
        refine ⟨hover, ?_⟩
        rw [FramePolicy.sizeOfPayload]
        omega
      · cases h
    · cases h

end Lobby

namespace Hub

variable {h : Hub Lobby Session} {i : ConnectionId} {c : Connection Session}

/-! ### Handling answers

To leave and to enter a room always succeed.  So a packet is answered whatever the hub is like. -/

/-- What changes the rooms and announces that returns. -/
theorem exists_call_announce (hc : h.connection? i = some c) (l : Lobby) (room : String)
    (n : Nat) :
    ∃ h', h.call i (do
      Callback.setShared l
      Callback.perform (l.announce room n)) = (some (), h') := by
  have hput : ({ h with shared := l } : Hub Lobby Session).connection? i = some c := hc
  exact ⟨_, (call_bind_of_some (call_setShared hc l) _).trans (call_perform hput _)⟩

theorem exists_call_leave? (hc : h.connection? i = some c) (room : Option String) :
    ∃ h', h.call i (Lobby.leave? room i) = (some (), h') := by
  cases room with
  | none => exact ⟨h, call_pure hc ()⟩
  | some room =>
    rw [Lobby.leave?, Lobby.leave, call_bind_of_some (call_shared hc)]
    split
    · exact ⟨h, call_pure hc ()⟩
    · exact exists_call_announce hc _ room _

/-- **The answer to a packet is the lobby's**, whatever state the hub is in. -/
theorem exists_call_handle (hc : h.connection? i = some c) (packet : ClientPacket) :
    ∃ h', h.call i (Lobby.handle i packet) =
      (some (Lobby.reply h.shared.policy c.session packet), h') := by
  cases packet with
  | enter room name =>
    have hput : (h.setSession i { name := some name, room := some room }).connection? i = _ :=
      connection?_modify_self _ hc
    obtain ⟨h₁, hleave⟩ := exists_call_leave? hput c.session.room
    obtain ⟨d, hd⟩ := exists_connection?_of_call hput hleave
    obtain ⟨h₂, henter⟩ : ∃ h₂, h₁.call i (Lobby.enter room i) = (some (), h₂) := by
      rw [Lobby.enter, call_bind_of_some (call_shared hd)]
      exact exists_call_announce hd _ room _
    obtain ⟨e, he⟩ := exists_connection?_of_call hd henter
    refine ⟨h₂, ?_⟩
    rw [Lobby.handle, call_bind_of_some (call_session hc), call_bind_of_some (call_setSession hc _),
      call_bind_of_some hleave, call_bind_of_some henter, call_pure he]
    rfl
  | leave =>
    have hput : (h.setSession i { c.session with room := none }).connection? i = _ :=
      connection?_modify_self _ hc
    obtain ⟨h₁, hleave⟩ := exists_call_leave? hput c.session.room
    obtain ⟨d, hd⟩ := exists_connection?_of_call hput hleave
    refine ⟨h₁, ?_⟩
    rw [Lobby.handle, call_bind_of_some (call_session hc), call_bind_of_some (call_setSession hc _),
      call_bind_of_some hleave, call_pure hd]
    rfl
  | chat text =>
    cases hreply : Lobby.reply h.shared.policy c.session (.chat text) with
    | error cause => exact ⟨h, call_handle_of_refused hc hreply⟩
    | ok _ =>
      rw [Lobby.handle, call_bind_of_some (call_session hc), call_bind_of_some (call_shared hc)]
      cases hroom : c.session.room with
      | none => exact ⟨h, call_pure hc _⟩
      | some room =>
        cases hspeaker : c.session.name with
        | none => exact ⟨h, call_pure hc _⟩
        | some speaker =>
          simp only [Lobby.reply, hroom, hspeaker] at hreply
          cases hencode : (chatRelay speaker text).encode h.shared.policy with
          | error cause =>
            rw [hencode] at hreply
            cases hreply
          | ok data =>
            simp only [hencode]
            rw [call_bind_of_some (call_perform hc _)]
            obtain ⟨d, hd⟩ := exists_connection?_of_call hc (call_perform hc
              (discard (h.shared.rooms.broadcast room data (some i))))
            exact ⟨_, call_pure hd _⟩

/-- A frame with a packet is answered as the packet is. -/
theorem call_receive_eq {f : Frame} {packet : ClientPacket} (hc : h.connection? i = some c)
    (hread : ClientPacket.ofFrame f = .ok packet) :
    (h.call i (Lobby.receive i f).run).1 =
      some ((Lobby.reply h.shared.policy c.session packet).mapError Lobby.refusal) := by
  obtain ⟨h', hhandle⟩ := exists_call_handle hc packet
  rw [call_receive_of_ok hc hread hhandle]

end Hub

/-! ## What ends a session that receives

A receipt can fail in three ways: a length is out of bounds, a frame carries no packet, or a packet
is refused.  Of each it is said whose input it comes from.  The errors of reading a packet are told
apart from those of writing one by `PacketError.OfInput`. -/

/-- Whether the size of a frame is out of the bounds of the policy, as the error says. -/
def FrameError.OutOfBounds (p : FramePolicy) : FrameError → Prop
  | tooShort size min => min = p.minFrame ∧ size < min
  | tooLarge size max => max = p.maxFrame ∧ max < size
  | _ => False

/-- Whether an error is about what came in a frame: its tag, its payload, or the length of a
field. -/
def PacketError.OfInput : PacketError → Prop
  | unknownTag _ | payload _ => True
  | fieldLength _ length max => length = 0 ∨ max < length
  | frame _ => False

namespace Packet

variable {field value : String} {max : Nat} {e : PacketError}

/-- A length that is refused is a length of the input. -/
theorem ofInput_of_checkLength (h : checkLength field value max = .error e) : e.OfInput := by
  rw [checkLength] at h
  split at h
  · next hbounds =>
    cases h
    exact hbounds
  · cases h

theorem ofInput_of_mapError {α : Type} {x : Except PayloadError α}
    (h : x.mapError PacketError.payload = .error e) : e.OfInput := by
  cases x with
  | error cause =>
    cases h
    trivial
  | ok a => cases h

end Packet

/-- No reading of a payload fails for what would have to be written. -/
theorem ClientPacket.ofInput_of_ofTagged {tag : UInt16} {payload : Bytes} {e : PacketError}
    (h : ofTagged tag payload = .error e) : e.OfInput := by
  rw [ofTagged] at h
  split at h
  · -- one of the four steps of the reading went wrong
    rcases of_bind_eq_error h with hroom | ⟨⟨room, rest⟩, h⟩
    · exact Packet.ofInput_of_mapError hroom
    rcases of_bind_eq_error h with hname | ⟨⟨name, behind⟩, h⟩
    · exact Packet.ofInput_of_mapError hname
    rcases of_bind_eq_error h with hroom | ⟨_, h⟩
    · exact Packet.ofInput_of_checkLength hroom
    rcases of_bind_eq_error h with hname | ⟨_, h⟩
    · exact Packet.ofInput_of_checkLength hname
    cases h
  · cases h
  · rcases of_bind_eq_error h with htext | ⟨⟨text, behind⟩, h⟩
    · exact Packet.ofInput_of_mapError htext
    rcases of_bind_eq_error h with htext | ⟨_, h⟩
    · exact Packet.ofInput_of_checkLength htext
    cases h
  · cases h
    trivial

/-- A frame that has room for a tag lacks none. -/
theorem ClientPacket.ofInput_of_ofFrame {f : Frame} {e : PacketError}
    (hlen : f.width.bytes + tagLength ≤ f.length) (h : ofFrame f = .error e) : e.OfInput := by
  obtain ⟨tag, htag, -⟩ := Decoder.exists_tag? hlen
  rw [ofFrame, htag] at h
  exact ofInput_of_ofTagged h

namespace Lobby

variable {p : FramePolicy} {s : Session} {cause : ConnectionError}

/-- `EndsBy p s scanned cause`: the failure comes of what was scanned, in a session that was `s`. -/
inductive EndsBy (p : FramePolicy) (s : Session) (scanned : Scan) : ConnectionError → Prop
  /-- A length is out of bounds. -/
  | length {violation : FrameError} : scanned.fault = some violation →
      violation.OutOfBounds p → EndsBy p s scanned (.protocol violation)
  /-- A frame carries no packet that a client may send. -/
  | packet {before after : List Frame} {f : Frame} {e : PacketError} :
      scanned.frames = before ++ f :: after → ClientPacket.ofFrame f = .error e → e.OfInput →
      EndsBy p s scanned (refusal e)
  /-- A frame carries one, but what would relay it is too large. -/
  | relay {before after : List Frame} {f : Frame} {packet : ClientPacket} {size : Nat} :
      scanned.frames = before ++ f :: after → ClientPacket.ofFrame f = .ok packet →
      overflow? p ((ClientPacket.leading before).foldl Session.after s) packet = some size →
      p.maxFrame < size → size ≤ p.headerLength + longestPayload →
      EndsBy p s scanned (refusal (tooLarge p size))

/-- Packets that were read leave a session with a proper name. -/
theorem Named.leading (hs : Named s) (frames : List Frame) :
    Named ((ClientPacket.leading frames).foldl Session.after s) := by
  induction frames generalizing s with
  | nil => exact hs
  | cons f frames ih =>
    rw [ClientPacket.leading]
    cases hread : ClientPacket.ofFrame f with
    | error e => exact hs
    | ok packet => exact ih (hs.after (ClientPacket.valid_of_ofFrame hread))

/-- The frame that is to blame is the first that carries no packet or whose packet is refused. -/
theorem exists_of_replyAll {frames : List Frame} (h : replyAll p s frames = .error cause) :
    ∃ before f after, frames = before ++ f :: after ∧
      ((∃ e, ClientPacket.ofFrame f = .error e ∧ cause = refusal e) ∨
        ∃ packet e, ClientPacket.ofFrame f = .ok packet ∧
          reply p ((ClientPacket.leading before).foldl Session.after s) packet = .error e ∧
          cause = refusal e) := by
  induction frames generalizing s with
  | nil => cases h
  | cons f frames ih =>
    rw [replyAll] at h
    cases hread : ClientPacket.ofFrame f with
    | error e =>
      rw [hread] at h
      cases h
      exact ⟨[], f, frames, rfl, .inl ⟨e, hread, rfl⟩⟩
    | ok packet =>
      rw [hread] at h
      dsimp only at h
      cases hreply : reply p s packet with
      | error e =>
        rw [hreply] at h
        cases h
        exact ⟨[], f, frames, rfl, .inr ⟨packet, e, hread, hreply, rfl⟩⟩
      | ok _ =>
        rw [hreply] at h
        obtain ⟨before, g, after, rfl, hblame⟩ := ih h
        refine ⟨f :: before, g, after, rfl, ?_⟩
        rw [ClientPacket.leading, hread]
        exact hblame

/-- A scan stops at a length that is out of bounds. -/
theorem outOfBounds_of_fault {data : Bytes} {violation : FrameError}
    (hwidth : p.width.bytes ≤ p.minFrame)
    (h : ((Decoder.ofPolicy p).scan data).fault = some violation) : violation.OutOfBounds p := by
  have hmin : (Decoder.ofPolicy p).policy.minFrame = p.minFrame := Nat.max_eq_left hwidth
  obtain ⟨-, hfault⟩ := Decoder.head_eq_outOfBounds_iff.mp (Decoder.head_rest_of_fault h)
  rcases Decoder.sizeFault?_eq_some_iff.mp hfault with ⟨hlt, rfl⟩ | ⟨-, hlt, rfl⟩
  · exact ⟨hmin, hlt⟩
  · exact ⟨rfl, hlt⟩

/-- **Why a receipt fails.** -/
theorem endsBy_of_receipt {data : Bytes} (hmin : p.headerLength ≤ p.minFrame) (hs : Named s)
    (h : receipt p s data = .error cause) :
    EndsBy p s ((Decoder.ofPolicy p).scan data) cause := by
  have hwidth : p.width.bytes ≤ p.minFrame := Nat.le_trans (Nat.le_add_right ..) hmin
  rw [receipt] at h
  cases hreply : replyAll p s ((Decoder.ofPolicy p).scan data).frames with
  | ok _ =>
    rw [hreply] at h
    have hresult : (Decoder.ofPolicy p).result data = .error cause := h
    rw [Decoder.result] at hresult
    split at hresult
    · next violation hfault =>
      cases hresult
      exact .length hfault (outOfBounds_of_fault hwidth hfault)
    · cases hresult
  | error cause' =>
    rw [hreply] at h
    cases h
    obtain ⟨before, f, after, hframes, ⟨e, hread, rfl⟩ | ⟨packet, e, hread, hrefused, rfl⟩⟩ :=
      exists_of_replyAll hreply
    · -- -- a whole frame has room for its tag, so that its error is not about that
      have hmem : f ∈ ((Decoder.ofPolicy p).scan data).frames := by
        rw [hframes]
        simp
      have hwhole := Decoder.whole_of_mem_scan hmem
      refine .packet hframes hread (ClientPacket.ofInput_of_ofFrame ?_ hread)
      have hle := hwhole.minFrame_le
      rw [hwhole.width_eq]
      exact Nat.le_trans hmin (Nat.le_trans (Nat.le_max_left ..) hle)
    · have hnamed := hs.leading before
      have hvalid := ClientPacket.valid_of_ofFrame hread
      rw [reply_eq hnamed hvalid] at hrefused
      split at hrefused
      · cases hrefused
      · next size hover =>
        cases hrefused
        obtain ⟨hlarge, hsmall⟩ := overflow?_spec hnamed hvalid hover
        exact .relay hframes hread hover hlarge hsmall

end Lobby

/-! ## After every run

The history tells who is connected, so that a failed receipt is the reason for the end and no other.
-/

namespace History

variable {past : History} {i : ConnectionId}

/-- Handling packets ends nothing. -/
theorem IsConnected.handled (h : past.IsConnected i) (j : ConnectionId)
    (packets : List ClientPacket) :
    IsConnected i ((packets.map (.handled j)).reverse ++ past) := by
  obtain ⟨hlt, hrejected, hasked, hdismissed⟩ := h
  refine ⟨?_, ?_, ?_, ?_⟩
  · rw [arrivals, List.count_append]
    exact Nat.lt_of_lt_of_le hlt (Nat.le_add_left ..)
  · simp [hrejected]
  · simp [hasked]
  · simp [hdismissed]

end History

/-- What was received ends a connection if the receipt fails, and else nothing does. -/
theorem Connection.outcome_receive {c : Connection Session} {pace : Pace} {n : Nat}
    {cursor : Cursor} (p : FramePolicy) (hfetch : c.fetch pace = .ok (c.fetched n cursor)) :
    (c.advanced p pace .receive).2 =
      match Lobby.receipt p c.session cursor.view with
      | .error cause => some (.ofError cause)
      | .ok _ => none := by
  rw [advanced, hfetch]
  dsimp only
  rw [show (c.fetched n cursor).cursor = cursor from rfl,
    show (c.fetched n cursor).session = c.session from rfl]
  cases hreceipt : Lobby.receipt p c.session cursor.view with
  | error cause => rfl
  | ok used =>
    have hused := Lobby.le_of_receipt hreceipt
    rw [Cursor.length_view] at hused
    obtain ⟨cursor', hconsume⟩ := Cursor.consume_of_le hused
    dsimp only
    rw [hconsume]

namespace Hub.Follows

variable {p : FramePolicy} {past : History} {h : Hub Lobby Session} {i : ConnectionId}
  {c d : Connection Session}

/-- A session that ends as it receives ends because the receipt failed. -/
theorem ended_of_receive (hf : h.Follows p past) (hc : h.connection? i = some c)
    (hmay : c.MayDo .receive) (pace : Pace)
    (hd : (h.advance (Lobby.handler p) pace i .receive).connection? i = some d)
    (hover : d.phase = .disconnected) :
    ∃ fetched cause, c.fetch pace = .ok fetched ∧
      Lobby.receipt p c.session fetched.cursor.view = .error cause ∧
      d.ended = some (.ofError cause) := by
  obtain ⟨n, cursor, hfetch, -⟩ := c.fetch_spec pace
  have hends : (c.advanced p pace .receive).2.isSome := by
    rw [← hf.phase?_advance hc hmay, phase?, hd, Option.map_some, hover]
  obtain ⟨⟨e, htracks, -, hself⟩, -, -⟩ := hf.advance hc hmay pace
  -- the session was connected until then, so the failure is the reason
  have hconnected : e.phase = .connected := by
    rw [htracks.connected_iff, happenings, hfetch]
    exact ((hf.tracks i c hc).connected_iff.mp hmay.1).handled i _
  rw [hd, c.outcome_receive p hfetch] at hself
  rw [c.outcome_receive p hfetch] at hends
  cases hreceipt : Lobby.receipt p c.session cursor.view with
  | ok used =>
    rw [hreceipt] at hends
    cases hends
  | error cause =>
    rw [hreceipt] at hself
    cases hself
    refine ⟨_, cause, hfetch, hreceipt, ?_⟩
    show some (e.reasonFor (.ofError cause)) = _
    rw [Connection.reasonFor, Connection.isConnected, hconnected]
    rfl

end Hub.Follows

namespace Server

/-- **What a session's own input does to it**, where frames are as by default but for the maximum.
After every run:

* every packet that can be read is answered with success, unless it would be relayed in a frame
  above the maximum, which there is none of from 539 bytes on;
* a session that ends as it receives ends because of a length that is out of bounds, because of a
  frame that carries no packet, or because of such a relay.
-/
theorem own_input (address : SocketAddress) (sizing : ReceiveSizing) (capacity maxFrame : Nat)
    (moves : List Move) :
    let p : FramePolicy := { maxFrame }
    let s := (opened address sizing capacity p).run moves
    ∀ i c, s.hub.connection? i = some c →
      (∀ f packet, ClientPacket.ofFrame f = .ok packet →
        (s.hub.call i (Lobby.receive i f).run).1 = some
          (match Lobby.overflow? p c.session packet with
            | none => .ok ()
            | some size => .error (Lobby.refusal (Lobby.tooLarge p size))) ∧
        (539 ≤ maxFrame → Lobby.overflow? p c.session packet = none)) ∧
      ∀ pace d, c.MayDo .receive →
        (s.move (.progress i .receive pace)).hub.connection? i = some d →
        d.phase = .disconnected →
        ∃ fetched cause, c.fetch pace = .ok fetched ∧ d.ended = some (.ofError cause) ∧
          Lobby.EndsBy p c.session ((Decoder.ofPolicy p).scan fetched.cursor.view) cause := by
  intro p s i c hc
  have hf := follows_history address sizing capacity p moves
  have hnamed := hf.named hc
  refine ⟨fun f packet hread => ⟨?_, fun hmax => ?_⟩, fun pace d hmay hd hover => ?_⟩
  · have hanswer := Hub.call_receive_eq hc hread
    rw [hf.policy_eq, Lobby.reply_eq hnamed (ClientPacket.valid_of_ofFrame hread)] at hanswer
    rw [hanswer]
    cases Lobby.overflow? p c.session packet <;> rfl
  · apply Option.eq_none_iff_forall_not_mem.mpr
    intro size hover
    obtain ⟨hlarge, hsmall⟩ :=
      Lobby.overflow?_spec hnamed (ClientPacket.valid_of_ofFrame hread) hover
    have hlongest : p.headerLength + longestPayload = 539 := rfl
    have hmaxFrame : p.maxFrame = maxFrame := rfl
    omega
  · rw [move_progress hf hc hmay] at hd
    obtain ⟨fetched, cause, hfetch, hreceipt, hended⟩ :=
      hf.ended_of_receive hc hmay pace hd hover
    exact ⟨fetched, cause, hfetch, hended, Lobby.endsBy_of_receipt (Nat.le_refl 4) hnamed hreceipt⟩

/-- A client enters a room, where it is alone, and says something. -/
def soliloquy : List Move :=
  [.connect ⟨.v4 ⟨127, 0, 0, 1⟩, 1⟩, .progress ⟨0⟩ .greet {},
    .peerSends ⟨0⟩ [12, 0, 1, 0, 5, 108, 111, 98, 98, 121, 1, 97], .progress ⟨0⟩ .receive {},
    .peerSends ⟨0⟩ [15, 0, 3, 0, 10, 48, 49, 50, 51, 52, 53, 54, 55, 56, 57]]

/-- **What is said may end the session** although it came in a frame that is not too large: it would
be relayed in one that is. -/
theorem line_ends_session :
    let p : FramePolicy := { maxFrame := 15 }
    let s := (opened ⟨.v4 ⟨127, 0, 0, 1⟩, 0⟩ ⟨16, 1⟩ 1 p).run soliloquy
    let f : Frame := ⟨.two, [15, 0, 3, 0, 10, 48, 49, 50, 51, 52, 53, 54, 55, 56, 57]⟩
    (Decoder.ofPolicy p).scan f.bytes = ⟨[f], [], none⟩ ∧
      ClientPacket.ofFrame f = .ok (.chat "0123456789") ∧
      (s.hub.call ⟨0⟩ (Lobby.receive ⟨0⟩ f).run).1 =
        some (.error (.handler "frame size 17 exceeds maximum 15")) ∧
      (((s.move (.progress ⟨0⟩ .receive {})).hub.connection? ⟨0⟩).map fun c =>
        (c.phase, c.ended)) = some (.disconnected,
          some (.ofError (.handler "frame size 17 exceeds maximum 15"))) := by
  exact ⟨by decide +kernel, by decide +kernel, by decide +kernel, by decide +kernel⟩

end Server

end ChatLobby
