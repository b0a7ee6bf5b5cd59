import ChatLobby.Packet.Read
import ChatLobby.Proofs.FrameRoundTrip

/-!
# What the server writes, clients read

Names have at most 32 bytes and lines at most 500, so what the server sends is short: a presence
has at most 38 bytes of payload, and what is relayed at most 535.  A lobby whose frames may be that
long can write all of its packets, and clients that frame alike read them again.

* `ServerPacket.readAll_frames`: clients read the packets that were written, in order.
-/

namespace ChatLobby

/-! ## Lengths

A number takes a byte for each seven bits, so that the length of a short text takes one byte or two.
-/

/-- A number of at most `7 * k` bits takes at most `k` bytes. -/
theorem Varint.length_encode_le {n k : Nat} (h : n < 128 ^ k) (hk : 0 < k) :
    (encode n).length ≤ k := by
  induction k generalizing n with
  | zero => omega
  | succ k ih =>
    rw [encode]
    split
    · simp
    · next hn =>
      -- a number that needs a further byte has more than seven bits
      have hpos : 0 < k := by
        rcases Nat.eq_zero_or_pos k with rfl | hpos
        · simp at h
          omega
        · exact hpos
      have hdiv : n / 128 < 128 ^ k := by
        rw [Nat.pow_succ] at h
        omega
      have := ih hdiv hpos
      rw [List.length_cons]
      omega

/-- A text takes its bytes and those of its length. -/
theorem Payload.length_text_le {s : String} {k : Nat} (h : s.utf8ByteSize < 128 ^ k) (hk : 0 < k) :
    (text s).length ≤ k + s.utf8ByteSize := by
  have := Varint.length_encode_le h hk
  rw [text, List.length_append, length_ofString]
  omega

/-! ## Payloads that fit

The payloads of all packets have one limit, which a packet of the server is far from.  What remains
to be asked is whether the policy admits its frame. -/

namespace Packet

variable {p : FramePolicy} {tag : UInt16} {payload b : Bytes}

/-- A packet makes a frame if its payload is not too long and the policy writes the frame. -/
theorem encodeFrame_eq_ok_iff : encodeFrame p tag payload = .ok b ↔
    payload.length ≤ maxPayload ∧ p.encode tag payload = .ok b := by
  rw [encodeFrame]
  split
  · next h =>
    constructor
    · rintro ⟨⟩
    · rintro ⟨hle, -⟩
      omega
  · next h =>
    cases p.encode tag payload with
    | ok b' => simp [Except.mapError, Nat.le_of_not_lt h]
    | error cause => simp [Except.mapError]

/-- The size of a packet's frame fits even the narrow prefix. -/
theorem fits_of_le_maxPayload (h : payload.length ≤ maxPayload) :
    p.width.Fits (p.declaredOfSize (p.sizeOfPayload payload)) := by
  have hle : p.declaredOfSize (p.sizeOfPayload payload) ≤ p.headerLength + payload.length := by
    rw [FramePolicy.declaredOfSize, FramePolicy.sizeOfPayload]
    split <;> omega
  rw [maxPayload] at h
  refine Nat.lt_of_le_of_lt hle ?_
  rw [FramePolicy.headerLength, tagLength]
  cases p.width with
  | two =>
    show 2 + 2 + payload.length < 65536
    omega
  | four =>
    show 4 + 2 + payload.length < 4294967296
    omega

end Packet

namespace ServerPacket

variable {p q : FramePolicy} {packet : ServerPacket} {b : Bytes}

/-- What the server sends has names and lines that clients may have. -/
def Small : ServerPacket → Prop
  | chatRelay speaker text =>
    speaker.utf8ByteSize ≤ Packet.maxNameLength ∧ text.utf8ByteSize ≤ Packet.maxTextLength
  | presence room _ => room.utf8ByteSize ≤ Packet.maxNameLength

/-- The longest payload of a presence. -/
def longestPresence : Nat := 38

/-- The longest payload of anything that the server sends. -/
def longestPayload : Nat := 535

/-- A presence has the name of a room and a number of members. -/
theorem length_presence_le {room : String} (members : UInt32)
    (h : room.utf8ByteSize ≤ Packet.maxNameLength) :
    (presence room members).payload.length ≤ longestPresence := by
  rw [Packet.maxNameLength] at h
  have htext := Payload.length_text_le (s := room) (k := 1) (by omega) (by decide)
  have hcount : (Payload.count members).length ≤ 5 :=
    Varint.length_encode_le (Nat.lt_trans members.toNat_lt (by decide)) (by decide)
  rw [payload, List.length_append, longestPresence]
  omega

/-- A relay is the longest of them. -/
theorem length_payload_le (h : packet.Small) : packet.payload.length ≤ longestPayload := by
  cases packet with
  | chatRelay speaker text =>
    obtain ⟨hspeaker, htext⟩ := h
    rw [Packet.maxNameLength] at hspeaker
    rw [Packet.maxTextLength] at htext
    have hname := Payload.length_text_le (s := speaker) (k := 1) (by omega) (by decide)
    have hline := Payload.length_text_le (s := text) (k := 2) (by omega) (by decide)
    rw [payload, List.length_append, longestPayload]
    omega
  | presence room members =>
    exact Nat.le_trans (length_presence_le members h) (by decide)

/-! ## Writing -/

theorem encode_eq_ok_iff : packet.encode p = .ok b ↔
    packet.payload.length ≤ Packet.maxPayload ∧ p.encode packet.tag packet.payload = .ok b :=
  Packet.encodeFrame_eq_ok_iff

/-- A short payload can be written by every policy that admits frames of its size. -/
theorem exists_encode (hlen : packet.payload.length ≤ longestPayload)
    (hfits : p.headerLength + packet.payload.length ≤ p.maxFrame) :
    ∃ b, packet.encode p = .ok b := by
  have hmax : packet.payload.length ≤ Packet.maxPayload := Nat.le_trans hlen (by decide)
  obtain ⟨b, hb⟩ : ∃ b, p.encode packet.tag packet.payload = .ok b :=
    FramePolicy.exists_encode_iff.mpr ⟨hfits, Packet.fits_of_le_maxPayload hmax⟩
  exact ⟨b, encode_eq_ok_iff.mpr ⟨hmax, hb⟩⟩

/-- The frames of packets, without those that make none. -/
def frames (p : FramePolicy) (packets : List ServerPacket) : List Bytes :=
  packets.filterMap fun packet => (packet.encode p).toOption

theorem frames_append (p : FramePolicy) (packets more : List ServerPacket) :
    frames p (packets ++ more) = frames p packets ++ frames p more :=
  List.filterMap_append

/-- Where every packet makes a frame, none is left out. -/
theorem map_encode_eq {packets : List ServerPacket}
    (h : ∀ packet ∈ packets, ∃ b, packet.encode p = .ok b) :
    packets.map (·.encode p) = (frames p packets).map .ok := by
  induction packets with
  | nil => rfl
  | cons packet packets ih =>
    obtain ⟨b, hb⟩ := h packet List.mem_cons_self
    have hrest := ih fun packet hmem => h packet (List.mem_cons_of_mem _ hmem)
    rw [List.map_cons, frames, List.filterMap_cons, hb, ← frames, hrest]
    rfl

/-! ## Reading

A client may have a policy of its own.  It reads what the server writes as soon as frames are laid
out alike and its bounds let through what the server may write; it need not be the same policy. -/

/-- Read the packet that a frame carries, if it carries one. -/
def read? (f : Frame) : Option ServerPacket :=
  f.tag?.bind fun tag => (ofTagged tag f.payload).toOption

/-- The packets in bytes that the server sent, as a client with the policy `q` finds them. -/
def readAll (q : FramePolicy) (b : Bytes) : List ServerPacket :=
  ((Decoder.ofPolicy q).scan b).frames.filterMap read?

/-- **A client reads the fields that the server wrote.**  There is nothing to be checked. -/
theorem ofTagged_payload (h : packet.payload.length ≤ Packet.maxPayload) :
    ofTagged packet.tag packet.payload = .ok packet := by
  rw [Packet.maxPayload] at h
  cases packet with
  | chatRelay speaker text =>
    simp only [payload, Payload.text, List.length_append, Payload.length_ofString] at h
    have hspeaker : speaker.utf8ByteSize < UInt64.size := by
      rw [UInt64.size]
      omega
    have htext : text.utf8ByteSize < UInt64.size := by
      rw [UInt64.size]
      omega
    have hlast := Payload.takeText_text htext []
    rw [List.append_nil] at hlast
    show ((Payload.takeText (Payload.text speaker ++ Payload.text text)).mapError _ >>= _) = _
    rw [Payload.takeText_text hspeaker]
    show ((Payload.takeText (Payload.text text)).mapError _ >>= _) = _
    rw [hlast]
    rfl
  | presence room members =>
    simp only [payload, Payload.text, List.length_append, Payload.length_ofString] at h
    have hroom : room.utf8ByteSize < UInt64.size := by
      rw [UInt64.size]
      omega
    have hlast := Payload.takeCount_count members []
    rw [List.append_nil] at hlast
    show ((Payload.takeText (Payload.text room ++ Payload.count members)).mapError _ >>= _) = _
    rw [Payload.takeText_text hroom]
    show ((Payload.takeCount (Payload.count members)).mapError _ >>= _) = _
    rw [hlast]
    rfl

/-- The packet in a frame that was written is the one that was written. -/
theorem read?_frame (h : packet.encode p = .ok b) : read? (p.frame b) = some packet := by
  obtain ⟨hlen, hencode⟩ := encode_eq_ok_iff.mp h
  rw [read?, FramePolicy.tag?_frame hencode, FramePolicy.payload_frame hencode]
  show (ofTagged packet.tag packet.payload).toOption = _
  rw [ofTagged_payload hlen]
  rfl

end ServerPacket

/-- `q.Reads p`: who frames by `q` reads what a lobby writes that frames by `p`.  The two lay frames
out alike, and `q` admits frames as short and as long as the lobby may write. -/
structure FramePolicy.Reads (q p : FramePolicy) : Prop where
  width_eq : q.width = p.width
  countsPrefix_eq : q.countsPrefix = p.countsPrefix
  minFrame_le : q.minFrame ≤ p.headerLength
  le_maxFrame : min p.maxFrame (p.headerLength + ServerPacket.longestPayload) ≤ q.maxFrame

namespace ServerPacket

variable {p q : FramePolicy} {packet : ServerPacket} {b : Bytes}

/-- A frame of the server is one that the client's policy would have written. -/
theorem writes_of_encode (hq : q.Reads p) (hsmall : packet.Small) (h : packet.encode p = .ok b) :
    q.Writes (packet.tag, packet.payload) b := by
  have hlen := length_payload_le hsmall
  obtain ⟨-, hencode⟩ := encode_eq_ok_iff.mp h
  have hsize := FramePolicy.length_of_encode hencode
  obtain ⟨hmax, hrepresentable, heq⟩ := FramePolicy.encode_eq_ok_iff.mp hencode
  have hwidth := hq.width_eq
  have hcounts := hq.countsPrefix_eq
  -- frames are laid out alike, so the header is the same
  have hsizes : q.sizeOfPayload packet.payload = p.sizeOfPayload packet.payload := by
    rw [FramePolicy.sizeOfPayload, FramePolicy.sizeOfPayload, FramePolicy.headerLength,
      FramePolicy.headerLength, hwidth]
  have hdeclared : q.declaredOfSize (q.sizeOfPayload packet.payload) =
      p.declaredOfSize (p.sizeOfPayload packet.payload) := by
    rw [hsizes, FramePolicy.declaredOfSize, FramePolicy.declaredOfSize, hwidth, hcounts]
  have hheader : q.headerOf packet.tag packet.payload = p.headerOf packet.tag packet.payload := by
    rw [FramePolicy.headerOf, FramePolicy.headerOf, hdeclared, hwidth]
  refine ⟨FramePolicy.encode_eq_ok_iff.mpr ⟨?_, ?_, ?_⟩, ?_⟩
  · show q.sizeOfPayload packet.payload ≤ q.maxFrame
    rw [hsizes]
    have hsize : p.sizeOfPayload packet.payload ≤ p.headerLength + longestPayload :=
      Nat.add_le_add_left hlen _
    exact Nat.le_trans (Nat.le_min.mpr ⟨hmax, hsize⟩) hq.le_maxFrame
  · rw [hdeclared, hwidth]
    exact hrepresentable
  · rw [hheader]
    exact heq
  · rw [hsize, FramePolicy.sizeOfPayload]
    have hmin := hq.minFrame_le
    omega

/-- Where every packet makes a frame, each frame is one that clients read. -/
theorem forall₂_frames {R : ServerPacket → Bytes → Prop} {packets : List ServerPacket}
    (hencode : ∀ packet ∈ packets, ∃ b, packet.encode p = .ok b)
    (hR : ∀ packet ∈ packets, ∀ b, packet.encode p = .ok b → R packet b) :
    List.Forall₂ R packets (frames p packets) := by
  induction packets with
  | nil => exact .nil
  | cons packet packets ih =>
    obtain ⟨b, hb⟩ := hencode packet List.mem_cons_self
    rw [frames, List.filterMap_cons, hb]
    exact .cons (hR packet List.mem_cons_self b hb)
      (ih (fun packet hmem => hencode packet (List.mem_cons_of_mem _ hmem))
        fun packet hmem => hR packet (List.mem_cons_of_mem _ hmem))

/-- **Clients read what was written**, packet by packet. -/
theorem readAll_frames {packets : List ServerPacket} (hq : q.Reads p)
    (hsmall : ∀ packet ∈ packets, packet.Small)
    (hencode : ∀ packet ∈ packets, ∃ b, packet.encode p = .ok b) :
    readAll q (frames p packets).flatten = packets := by
  have hwritten : List.Forall₂ q.Writes (packets.map fun packet => (packet.tag, packet.payload))
      (frames p packets) :=
    List.forall₂_map_left_iff.mpr
      (forall₂_frames hencode fun packet hmem b hb => writes_of_encode hq (hsmall packet hmem) hb)
  have hpairs : List.Forall₂ (fun packet b => read? (q.frame b) = some packet) packets
      (frames p packets) := by
    refine forall₂_frames hencode fun packet _ b hb => ?_
    rw [FramePolicy.frame, hq.width_eq]
    exact read?_frame hb
  have hread : ((frames p packets).map q.frame).filterMap read? = packets := by
    clear hwritten hencode hsmall
    generalize frames p packets = written at hpairs
    induction hpairs with
    | nil => rfl
    | cons hfirst _ ih => rw [List.map_cons, List.filterMap_cons, hfirst, ih]
  have hscan := Decoder.scan_written hwritten []
  rw [List.append_nil, Decoder.scan_of_incomplete (Decoder.head_nil _)] at hscan
  rw [readAll, hscan]
  dsimp only
  rw [List.append_nil, hread]

end ServerPacket

end ChatLobby
