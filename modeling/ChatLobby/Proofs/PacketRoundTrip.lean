import ChatLobby.Proofs.History

/-!
# Packets that are written are read back

Between a packet and the packet that its receiver makes of it lie three layers: the fields of its
payload, the frame that is written around them in the send buffer, and the decoder of the stream.

* `Packet.written_eq_encodeFrame`: a payload is written in place, and gives up if it does not fit
  its room.  That makes the frame of `Packet.encodeFrame`, whatever the buffer was used for.
* `Packet.transmits_encodeFrame`: which packets make frames, and what a decoder finds in one.
* `ClientPacket.ofTagged_payload`: what the server makes of the fields that a client wrote.
* `Packet.codec_round_trip`: the layers together, for both directions.
-/

namespace ChatLobby

/-! ## Writing in place

Fields are serialized into the region of a frame, which always has room for `Packet.maxPayload`
bytes. A payload that is longer fails there, and by then a part of it may be in the buffer.  What
part that is depends on the serializer, so it is left open. -/

/-- The writer that puts a payload into its region, if it fits.  If not, it has written some of it,
`spill`, before it gives up. -/
def PayloadWriter.serialize (spill payload : Bytes) : PayloadWriter PacketError :=
  fun region =>
    if region.length < payload.length then
      (region.overwrite 0 spill, .error (.payload .bufferFull))
    else (region.overwrite 0 payload, .ok payload.length)

/-- The serializer stays in its region. -/
theorem PayloadWriter.length_serialize (spill payload region : Bytes) :
    (serialize spill payload region).1.length = region.length := by
  unfold serialize
  split <;> exact Bytes.length_overwrite ..

/-- The room that a payload had does not go into its header. -/
theorem FramePolicy.header_eq_of_le {p : FramePolicy} {tag : UInt16} {capacity written : Nat}
    (h : written ≤ capacity) : p.header tag capacity written = p.header tag written written := by
  rw [header, header, if_neg (Nat.not_lt.mpr h), if_neg (Nat.lt_irrefl _)]

namespace Packet

/-- The bytes of a packet that is written in the send buffer. -/
def written (buffer : SendBuffer) (spill : Bytes) (p : FramePolicy) (tag : UInt16)
    (payload : Bytes) : Except PacketError Bytes :=
  buffer.writtenWith p tag maxPayload (.serialize spill payload) .frame

/-- **The send buffer does not matter**, nor what an attempt that gives up leaves in it. -/
theorem written_eq_encodeFrame (buffer : SendBuffer) (spill : Bytes) (p : FramePolicy)
    (tag : UInt16) (payload : Bytes) :
    written buffer spill p tag payload = encodeFrame p tag payload := by
  have hlen := buffer.length_payloadRegion p maxPayload
  have hwritten := buffer.writtenWith_eq p tag maxPayload PacketError.frame
    (PayloadWriter.length_serialize spill payload)
  generalize buffer.payloadRegion p maxPayload = region at *
  rw [written, hwritten, PayloadWriter.serialize, hlen, encodeFrame]
  split
  · rfl
  · next hle =>
    have hfits : payload.length ≤ maxPayload := Nat.le_of_not_lt hle
    have hfront : (region.overwrite 0 payload).take payload.length = payload := by
      have hroom : 0 + payload.length ≤ region.length := by omega
      have hdrop := Bytes.take_drop_overwrite payload hroom
      rwa [List.drop_zero] at hdrop
    show ((p.header tag maxPayload payload.length).map
      (· ++ (region.overwrite 0 payload).take payload.length)).mapError PacketError.frame = _
    rw [hfront, FramePolicy.header_eq_of_le hfits, FramePolicy.encode]

end Packet

/-! ## Which packets make frames

A packet goes through two limits.  The first is that of its payload, which no policy can raise. -/

/-- `Transmits p payload outcome reads`: `outcome` is what comes of writing a packet with this
payload.  A payload that is too long is refused before a frame that is too large; and if the frame
is not too short, a decoder of the same policy hands it over and nothing else, and `reads` holds of
it. -/
structure Packet.Transmits (p : FramePolicy) (payload : Bytes) (outcome : Except PacketError Bytes)
    (reads : Frame → Prop) : Prop where
  tooLong : maxPayload < payload.length → outcome = .error (.payload .bufferFull)
  tooLarge : payload.length ≤ maxPayload → p.maxFrame < p.headerLength + payload.length →
    outcome = .error (.frame (.tooLarge (p.headerLength + payload.length) p.maxFrame))
  fits : payload.length ≤ maxPayload → p.headerLength + payload.length ≤ p.maxFrame →
    ∃ b, outcome = .ok b ∧ b.length = p.headerLength + payload.length
  decodes : ∀ b, outcome = .ok b → p.minFrame ≤ b.length → ∃ f : Frame, f.bytes = b ∧ reads f ∧
    ∀ (m : Type → Type) [Monad m] [LawfulMonad m] (onFrame : Frame → ExceptT ConnectionError m Unit),
      (Decoder.ofPolicy p).decode b onFrame = (onFrame f >>= fun _ => pure b.length)

namespace Packet

variable {p : FramePolicy} {tag : UInt16} {payload b : Bytes}

/-- A frame alone on a stream is handed over alone. -/
theorem decode_frame (h : p.encode tag payload = .ok b) (hmin : p.minFrame ≤ b.length)
    {m : Type → Type} [Monad m] [LawfulMonad m] (onFrame : Frame → ExceptT ConnectionError m Unit) :
    (Decoder.ofPolicy p).decode b onFrame = (onFrame (p.frame b) >>= fun _ => pure b.length) := by
  have hwrites : p.Writes (tag, payload) b := ⟨h, hmin⟩
  have hscan := Decoder.scan_written (.cons hwrites .nil) []
  rw [List.flatten_cons, List.flatten_nil, List.append_nil, List.append_nil,
    Decoder.scan_of_incomplete (Decoder.head_nil _)] at hscan
  rw [Decoder.decode_of_no_fault onFrame (by rw [hscan]), hscan]
  simp

/-- **Both limits, and what a decoder finds.**  What the fields mean is left to `reads`. -/
theorem transmits_encodeFrame {reads : Frame → Prop}
    (hreads : payload.length ≤ maxPayload →
      ∀ f : Frame, f.tag? = some tag → f.payload = payload → reads f) :
    Transmits p payload (encodeFrame p tag payload) reads where
  tooLong h := if_pos h
  tooLarge hlen hlarge := by
    rw [encodeFrame, if_neg (Nat.not_lt.mpr hlen), FramePolicy.encode_of_tooLarge tag hlarge]
    rfl
  fits hlen hsize := by
    obtain ⟨b, hb⟩ : ∃ b, p.encode tag payload = .ok b :=
      FramePolicy.exists_encode_iff.mpr ⟨hsize, fits_of_le_maxPayload hlen⟩
    exact ⟨b, encodeFrame_eq_ok_iff.mpr ⟨hlen, hb⟩, FramePolicy.length_of_encode hb⟩
  decodes b hb hmin := by
    obtain ⟨hlen, hencode⟩ := encodeFrame_eq_ok_iff.mp hb
    exact ⟨p.frame b, rfl, hreads hlen _ (FramePolicy.tag?_frame hencode)
      (FramePolicy.payload_frame hencode), fun m _ _ onFrame => decode_frame hencode hmin onFrame⟩

end Packet

/-! ## What the server makes of a client's fields

A client does not check its fields before it writes them; the server does when it reads them.  So
the other end of a round trip is not the packet but `ClientPacket.checked`, which may be an error.
-/

instance (value : String) (max : Nat) : Decidable (Packet.FitsField value max) :=
  inferInstanceAs (Decidable (_ ∧ _))

namespace ClientPacket

/-- The text fields of a packet in order: their names, their values and their limits. -/
def fields : ClientPacket → List (String × String × Nat)
  | enter room name =>
    [("room", room, Packet.maxNameLength), ("name", name, Packet.maxNameLength)]
  | leave => []
  | chat text => [("text", text, Packet.maxTextLength)]

/-- The packet, unless a field is out of its limits: the first such field is reported. -/
def checked (packet : ClientPacket) : Except PacketError ClientPacket :=
  match packet.fields.find? fun (_, value, max) => ¬ Packet.FitsField value max with
  | some (field, value, max) => .error (.fieldLength field value.utf8ByteSize max)
  | none => .ok packet

/-- The bytes of a packet that a client writes in its send buffer.  A packet without fields is
written without a payload. -/
def writtenIn (buffer : SendBuffer) (spill : Bytes) (p : FramePolicy) :
    ClientPacket → Except PacketError Bytes
  | leave => (buffer.written p leave.tag []).mapError .frame
  | packet => Packet.written buffer spill p packet.tag packet.payload

/-- What a client writes does not depend on its send buffer. -/
theorem writtenIn_eq_encode (buffer : SendBuffer) (spill : Bytes) (p : FramePolicy)
    (packet : ClientPacket) : packet.writtenIn buffer spill p = packet.encode p := by
  cases packet with
  | enter room name => exact Packet.written_eq_encodeFrame buffer spill p ..
  | chat text => exact Packet.written_eq_encodeFrame buffer spill p ..
  | leave =>
    rw [writtenIn, SendBuffer.written_eq_encode]
    rfl

/-- The check of a field, told by what it checks. -/
theorem checkLength_eq (field value : String) (max : Nat) :
    Packet.checkLength field value max =
      if Packet.FitsField value max then .ok ()
      else .error (.fieldLength field value.utf8ByteSize max) := by
  have hiff : (value.utf8ByteSize = 0 ∨ max < value.utf8ByteSize) ↔
      ¬ Packet.FitsField value max := by
    rw [Packet.FitsField]
    omega
  rw [Packet.checkLength]
  simp only [hiff, ite_not]

/-- Both fields are read before either of them is judged. -/
theorem ofTagged_enter {payload rest behind : Bytes} {room name : String}
    (hroom : Payload.takeText payload = .ok (room, rest))
    (hname : Payload.takeText rest = .ok (name, behind)) :
    ofTagged 1 payload = (enter room name).checked := by
  show ((Payload.takeText payload).mapError _ >>= _) = _
  rw [hroom]
  show ((Payload.takeText rest).mapError _ >>= _) = _
  rw [hname]
  show (Packet.checkLength "room" room _ >>= fun _ =>
    Packet.checkLength "name" name _ >>= fun _ => pure (enter room name)) = _
  rw [checkLength_eq, checkLength_eq, checked, fields]
  -- the first field out of its limits is the one that counts
  by_cases hfitsRoom : Packet.FitsField room Packet.maxNameLength
  · by_cases hfitsName : Packet.FitsField name Packet.maxNameLength <;>
      simp [hfitsRoom, hfitsName, bind, Except.bind, pure, Except.pure]
  · simp [hfitsRoom, bind, Except.bind]

theorem ofTagged_chat {payload rest : Bytes} {text : String}
    (htext : Payload.takeText payload = .ok (text, rest)) :
    ofTagged 3 payload = (chat text).checked := by
  show ((Payload.takeText payload).mapError _ >>= _) = _
  rw [htext]
  show (Packet.checkLength "text" text _ >>= fun _ => pure (chat text)) = _
  rw [checkLength_eq, checked, fields]
  by_cases hfits : Packet.FitsField text Packet.maxTextLength <;>
    simp [hfits, bind, Except.bind, pure, Except.pure]

/-- **Fields are read back and then judged**, in order. -/
theorem ofTagged_payload (packet : ClientPacket) (h : packet.payload.length ≤ Packet.maxPayload) :
    ofTagged packet.tag packet.payload = packet.checked := by
  have hshort : ∀ s : String, s.utf8ByteSize ≤ Packet.maxPayload →
      s.utf8ByteSize < UInt64.size := by
    intro s hs
    rw [Packet.maxPayload] at hs
    rw [UInt64.size]
    omega
  have hlast : ∀ s : String, s.utf8ByteSize ≤ Packet.maxPayload →
      Payload.takeText (Payload.text s) = .ok (s, []) := by
    intro s hs
    have hread := Payload.takeText_text (hshort s hs) []
    rwa [List.append_nil] at hread
  -- a text that fits a payload has a length that is read back, and nothing follows the last one
  cases packet with
  | enter room name =>
    simp only [payload, Payload.text, List.length_append, Payload.length_ofString] at h
    exact ofTagged_enter (Payload.takeText_text (hshort room (by omega)) _)
      (hlast name (by omega))
  | leave => rfl
  | chat text =>
    simp only [payload, Payload.text, List.length_append, Payload.length_ofString] at h
    exact ofTagged_chat (hlast text (by omega))

end ClientPacket

/-- The bytes of a packet that the server writes in its send buffer. -/
def ServerPacket.writtenIn (buffer : SendBuffer) (spill : Bytes) (p : FramePolicy)
    (packet : ServerPacket) : Except PacketError Bytes :=
  Packet.written buffer spill p packet.tag packet.payload

/-! ## The round trip

The parts above, for the packets of both directions at once.  The server's packets are read without
a check, as its own fields were checked when it got them. -/

/-- **Packets survive the three layers.**  For every policy, a packet of either direction is written
just if its payload and then its frame are not too long.  A frame that is not too short is all that
a decoder finds in its bytes.  Clients read from it the packet that the server wrote.  The server
reads the packet that a client wrote if its fields keep their limits, and else it names the first
field that does not, with its length in bytes. -/
theorem Packet.codec_round_trip (p : FramePolicy) :
    (∀ packet : ClientPacket,
      (∀ (buffer : SendBuffer) (spill : Bytes), packet.writtenIn buffer spill p = packet.encode p) ∧
      Transmits p packet.payload (packet.encode p) fun f =>
        ClientPacket.ofFrame f = packet.checked) ∧
    ∀ packet : ServerPacket,
      (∀ (buffer : SendBuffer) (spill : Bytes), packet.writtenIn buffer spill p = packet.encode p) ∧
      Transmits p packet.payload (packet.encode p) fun f =>
        ∃ tag, f.tag? = some tag ∧ ServerPacket.ofTagged tag f.payload = .ok packet := by
  refine ⟨fun packet => ⟨fun buffer spill => packet.writtenIn_eq_encode buffer spill p, ?_⟩,
    fun packet => ⟨fun buffer spill => written_eq_encodeFrame buffer spill p .., ?_⟩⟩
  · apply transmits_encodeFrame
    intro hlen f htag hpayload
    rw [ClientPacket.ofFrame, htag, hpayload]
    exact packet.ofTagged_payload hlen
  · apply transmits_encodeFrame
    intro hlen f htag hpayload
    refine ⟨packet.tag, htag, ?_⟩
    rw [hpayload]
    exact ServerPacket.ofTagged_payload hlen

/-- Limits are about bytes: sixteen letters of two bytes each are a room, one byte more is not. -/
example :
    let room := String.ofList (List.replicate 16 'é')
    (ClientPacket.enter room "x").checked = .ok (.enter room "x") ∧
      (ClientPacket.enter (room ++ "e") "").checked = .error (.fieldLength "room" 33 32) := by
  decide +kernel

end ChatLobby
