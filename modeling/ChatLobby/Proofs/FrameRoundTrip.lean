import ChatLobby.Proofs.FrameStream
import ChatLobby.SendBuffer.Frame
import Mathlib.Data.List.Forall2

/-!
# Frames that are written are read back

Writing and reading frames have nothing in common but the policy.  A frame is written as

```
declared length ++ tag ++ payload
```

and what the reader makes of the front of a stream depends on the declared length alone.  So all
comes down to one fact (`Decoder.declaredSize_written`): the reader finds the size that the frame
has.

* `SendBuffer.written_eq_encode`: a frame written in place has the bytes of `FramePolicy.encode`,
  whatever the send buffer was used for before.
* `Decoder.scan_written`: written frames at the front of a stream are the first frames of its scan.
* `FramePolicy.stream_round_trip`: which frames can be written, and how a stream of them is decoded.
-/

namespace ChatLobby

/-! ## Writing in place

A frame is not put together from its parts.  A region is opened in the send buffer, the payload is
written where it will be, then the header in front of it, and only as much of the region is closed
as was written.  The lemmas follow these steps, and `writtenWith_eq` is where they end: nothing of
the buffer is left in it but the region of the writer. -/

namespace Bytes

theorem overwrite_zero {region payload : Bytes} (h : region.length = payload.length) :
    region.overwrite 0 payload = payload := by
  have hdrop : region.drop (0 + payload.length) = [] := List.drop_eq_nil_of_le (by omega)
  have htake : payload.take (region.length - 0) = payload := List.take_of_length_le (by omega)
  rw [overwrite, hdrop, htake, List.take_zero, List.nil_append, List.append_nil]

/-- What is written over the payload's place and then over the header's place stands in front. -/
theorem take_overwrite_overwrite {region header payload : Bytes}
    (h : header.length + payload.length ≤ region.length) :
    ((region.overwrite header.length payload).overwrite 0 header).take
      (header.length + payload.length) = header ++ payload := by
  have hinner := take_drop_overwrite payload h
  have hlen := length_overwrite region header.length payload
  generalize region.overwrite header.length payload = written at *
  have hfit : header.take (written.length - 0) = header := List.take_of_length_le (by omega)
  rw [overwrite, hfit, List.take_zero, List.nil_append, Nat.zero_add, List.take_length_add_append,
    hinner]

end Bytes

/-- A header is refused if more was written than there was room for. -/
theorem FramePolicy.written_le_of_header {p : FramePolicy} {tag : UInt16} {capacity written : Nat}
    {b : Bytes} (h : p.header tag capacity written = .ok b) : written ≤ capacity := by
  rw [header] at h
  split at h
  · cases h
  · next hle => exact Nat.le_of_not_lt hle

namespace SendBuffer

variable {b : SendBuffer}

theorem le_remaining_reserve (b : SendBuffer) (size : Nat) :
    size ≤ (b.reserve size).remaining := by
  unfold reserve
  split
  · show size ≤ (Bytes.zeros (max b.chunkSize size)).length - 0
    rw [Bytes.zeros, List.length_replicate]
    omega
  · next h => exact Nat.le_of_not_lt h

theorem reserved_reserve (b : SendBuffer) (size : Nat) :
    (b.reserve size).reserved = some (b.reserve size).remaining := rfl

/-- Opening a region makes a buffer well-formed, whatever it was before. -/
theorem wellFormed_reserve {size : Nat} (h : 0 < size) : (b.reserve size).WellFormed where
  taken_le := by
    have hle := b.le_remaining_reserve size
    unfold remaining at hle
    omega
  reserved_eq n hn := by
    rw [reserved_reserve] at hn
    exact (Option.some.inj hn).symm

/-- Writing into a region takes no space. -/
theorem WellFormed.write (h : b.WellFormed) (offset : Nat) (data : Bytes) :
    (b.write offset data).WellFormed where
  taken_le := by
    have hlen := b.length_region
    have hle := h.taken_le
    show b.taken ≤ (b.storage.take b.taken ++ b.region.overwrite offset data).length
    rw [List.length_append, List.length_take]
    omega
  reserved_eq n hn := by
    rw [remaining_write]
    exact h.reserved_eq n hn

theorem exists_close {n used : Nat} (h : b.reserved = some n) (hused : used ≤ n) :
    ∃ c v, b.close used = (c, .ok v) := by
  unfold close
  rw [h]
  dsimp only
  rw [if_neg (by omega)]
  exact ⟨_, _, rfl⟩

/-- The region that a payload writer gets for a payload of at most `maxPayload` bytes. -/
def payloadRegion (b : SendBuffer) (p : FramePolicy) (maxPayload : Nat) : Bytes :=
  ((b.reserve (p.headerLength + maxPayload)).region.drop p.headerLength).take maxPayload

/-- The writer's region has the size that it was promised. -/
theorem length_payloadRegion (b : SendBuffer) (p : FramePolicy) (maxPayload : Nat) :
    (b.payloadRegion p maxPayload).length = maxPayload := by
  have hroom := b.le_remaining_reserve (p.headerLength + maxPayload)
  rw [payloadRegion, List.length_take, List.length_drop, length_region]
  omega

/-- The bytes of a frame whose payload is written in the buffer by `fill`. -/
def writtenWith {ε : Type} (b : SendBuffer) (p : FramePolicy) (tag : UInt16) (maxPayload : Nat)
    (fill : PayloadWriter ε) (ofFrameError : FrameError → ε) : Except ε Bytes :=
  (b.encodeWith p tag maxPayload fill ofFrameError).2.map
    (b.encodeWith p tag maxPayload fill ofFrameError).1.read

/-- **A frame that is written in place** is its header and, behind it, the front of what the writer
made of its region. -/
theorem writtenWith_eq {ε : Type} (b : SendBuffer) (p : FramePolicy) (tag : UInt16)
    (maxPayload : Nat) {fill : PayloadWriter ε} (ofFrameError : FrameError → ε)
    (hfill : ∀ region, (fill region).1.length = region.length) :
    b.writtenWith p tag maxPayload fill ofFrameError =
      (fill (b.payloadRegion p maxPayload)).2 >>= fun written =>
        ((p.header tag maxPayload written).map
          (· ++ (fill (b.payloadRegion p maxPayload)).1.take written)).mapError ofFrameError := by
  have hpos : 0 < p.headerLength + maxPayload := by
    rw [FramePolicy.headerLength, tagLength]
    omega
  have hroom := b.le_remaining_reserve (p.headerLength + maxPayload)
  have hwell := wellFormed_reserve (b := b) hpos
  have hopen := b.reserved_reserve (p.headerLength + maxPayload)
  have hbody := hfill (b.payloadRegion p maxPayload)
  rw [length_payloadRegion] at hbody
  unfold writtenWith encodeWith
  dsimp only
  rw [← payloadRegion]
  -- from here on only what the region is like matters, and what the writer left in it
  generalize b.reserve (p.headerLength + maxPayload) = r at *
  generalize fill (b.payloadRegion p maxPayload) = filled at *
  obtain ⟨body, _ | used⟩ := filled
  · rfl
  dsimp only at hbody ⊢
  rw [← hbody, List.take_length]
  show _ = ((p.header tag body.length used).map (· ++ body.take used)).mapError ofFrameError
  cases hheader : p.header tag body.length used with
  | error cause => rfl
  | ok header =>
    have hlen := FramePolicy.length_header hheader
    have hused := FramePolicy.written_le_of_header hheader
    obtain ⟨c, v, hclose⟩ : ∃ c v, ((r.write p.headerLength body).write 0 header).close
        (p.headerLength + used) = (c, .ok v) :=
      exists_close hopen (by omega)
    have hread := read_close hclose
    -- the header is written last, in front of the payload
    have hcut : header.length + used ≤ header.length + body.length := by omega
    rw [region_write (hwell.write ..), region_write hwell, ← hlen,
      ← Nat.min_eq_left hcut, ← List.take_take,
      Bytes.take_overwrite_overwrite (by rw [length_region]; omega),
      List.take_length_add_append] at hread
    rw [← hlen] at hclose
    simp only [← hlen, hclose]
    exact congrArg Except.ok hread

/-- The bytes of a frame that is written in the buffer. -/
def written (b : SendBuffer) (p : FramePolicy) (tag : UInt16) (payload : Bytes) :
    Except FrameError Bytes :=
  (b.encode p tag payload).2.map (b.encode p tag payload).1.read

/-- **Writing in place gives the same bytes**, whatever is left in the buffer from before. -/
theorem written_eq_encode (b : SendBuffer) (p : FramePolicy) (tag : UInt16) (payload : Bytes) :
    b.written p tag payload = p.encode tag payload := by
  have hfill : ∀ region : Bytes,
      (PayloadWriter.copy (ε := FrameError) payload region).1.length = region.length :=
    fun region => Bytes.length_overwrite region 0 payload
  have hwritten := b.writtenWith_eq p tag payload.length id hfill
  have hcopy : (PayloadWriter.copy (ε := FrameError) payload
      (b.payloadRegion p payload.length)).1 = payload :=
    Bytes.overwrite_zero (b.length_payloadRegion p payload.length)
  rw [hcopy] at hwritten
  refine Eq.trans hwritten ?_
  unfold FramePolicy.encode PayloadWriter.copy
  show ((p.header tag payload.length payload.length).map
    (· ++ payload.take payload.length)).mapError id = _
  rw [List.take_length]
  cases p.header tag payload.length payload.length <;> rfl

end SendBuffer

/-! ## Which frames can be written

The size counts before the prefix does.  A frame may keep the limit of its policy and still have a
length that two bytes cannot hold, as the limit of a policy is any number. -/

namespace FramePolicy

variable {p : FramePolicy} {tag : UInt16} {payload b : Bytes}

/-- The size of a frame with the given payload. -/
def sizeOfPayload (p : FramePolicy) (payload : Bytes) : Nat := p.headerLength + payload.length

/-- What comes before the payload. -/
def headerOf (p : FramePolicy) (tag : UInt16) (payload : Bytes) : Bytes :=
  Bytes.littleEndian p.width.bytes (p.declaredOfSize (p.sizeOfPayload payload)) ++
    Bytes.littleEndian tagLength tag.toNat

/-- A frame that is too large is refused with its size, whether or not the prefix could hold it. -/
theorem encode_of_tooLarge (tag : UInt16) (h : p.maxFrame < p.sizeOfPayload payload) :
    p.encode tag payload = .error (.tooLarge (p.sizeOfPayload payload) p.maxFrame) := by
  rw [sizeOfPayload] at h
  rw [encode, header, if_neg (Nat.lt_irrefl _), if_pos h]
  rfl

/-- A length that the prefix cannot hold is refused as it would be declared. -/
theorem encode_of_unrepresentable (tag : UInt16) (h : p.sizeOfPayload payload ≤ p.maxFrame)
    (hfits : ¬ p.width.Fits (p.declaredOfSize (p.sizeOfPayload payload))) :
    p.encode tag payload =
      .error (.unrepresentable (p.declaredOfSize (p.sizeOfPayload payload))) := by
  rw [sizeOfPayload] at h hfits
  rw [encode, header, if_neg (Nat.lt_irrefl _), if_neg (Nat.not_lt.mpr h), if_neg hfits]
  rfl

theorem encode_of_fits (tag : UInt16) (h : p.sizeOfPayload payload ≤ p.maxFrame)
    (hfits : p.width.Fits (p.declaredOfSize (p.sizeOfPayload payload))) :
    p.encode tag payload = .ok (p.headerOf tag payload ++ payload) := by
  rw [sizeOfPayload] at h hfits
  rw [encode, header, if_neg (Nat.lt_irrefl _), if_neg (Nat.not_lt.mpr h), if_pos hfits]
  rfl

/-- **What is written, and when**: all that is said about frames below comes from here. -/
theorem encode_eq_ok_iff :
    p.encode tag payload = .ok b ↔
      p.sizeOfPayload payload ≤ p.maxFrame ∧
        p.width.Fits (p.declaredOfSize (p.sizeOfPayload payload)) ∧
        b = p.headerOf tag payload ++ payload := by
  rcases Nat.lt_or_ge p.maxFrame (p.sizeOfPayload payload) with hlarge | hsize
  · rw [encode_of_tooLarge tag hlarge]
    constructor
    · rintro ⟨⟩
    · rintro ⟨hsize, _⟩
      omega
  · by_cases hfits : p.width.Fits (p.declaredOfSize (p.sizeOfPayload payload))
    · rw [encode_of_fits tag hsize hfits, Except.ok.injEq]
      exact ⟨fun h => ⟨hsize, hfits, h.symm⟩, fun h => h.2.2.symm⟩
    · rw [encode_of_unrepresentable tag hsize hfits]
      constructor
      · rintro ⟨⟩
      · rintro ⟨_, hfits', _⟩
        exact absurd hfits' hfits

theorem exists_encode_iff :
    (∃ b, p.encode tag payload = .ok b) ↔ p.sizeOfPayload payload ≤ p.maxFrame ∧
      p.width.Fits (p.declaredOfSize (p.sizeOfPayload payload)) := by
  simp only [encode_eq_ok_iff, ← and_assoc, exists_and_left, exists_eq, and_true]

/-- A frame has the size of its payload and its header. -/
theorem length_of_encode (h : p.encode tag payload = .ok b) :
    b.length = p.sizeOfPayload payload := by
  obtain ⟨_, _, rfl⟩ := encode_eq_ok_iff.mp h
  simp [headerOf, sizeOfPayload, headerLength]
  omega

theorem length_le_of_encode (h : p.encode tag payload = .ok b) : b.length ≤ p.maxFrame := by
  rw [length_of_encode h]
  exact (encode_eq_ok_iff.mp h).1

theorem width_le_sizeOfPayload (p : FramePolicy) (payload : Bytes) :
    p.width.bytes ≤ p.sizeOfPayload payload := by
  rw [sizeOfPayload, headerLength]
  omega

/-- What is declared for a size is read as that size. -/
theorem sizeOfDeclared_declaredOfSize {size : Nat} (h : p.width.bytes ≤ size) :
    p.sizeOfDeclared (p.declaredOfSize size) = size := by
  unfold sizeOfDeclared declaredOfSize
  split
  · rfl
  · omega

/-- The frame that was written, as its reader sees it. -/
def frame (p : FramePolicy) (b : Bytes) : Frame := { width := p.width, bytes := b }

/-- The tag stands behind the prefix, and is found there. -/
theorem tag?_frame (h : p.encode tag payload = .ok b) : (p.frame b).tag? = some tag := by
  obtain ⟨_, _, rfl⟩ := encode_eq_ok_iff.mp h
  have hread : Bytes.ofLittleEndian (Bytes.littleEndian tagLength tag.toNat) = tag.toNat :=
    Bytes.ofLittleEndian_littleEndian tag.toNat_lt
  have hdrop : (p.headerOf tag payload ++ payload).drop p.width.bytes =
      Bytes.littleEndian tagLength tag.toNat ++ payload := by
    rw [headerOf, List.append_assoc]
    exact List.drop_left' (Bytes.length_littleEndian ..)
  unfold Frame.tag? frame
  dsimp only
  rw [hdrop]
  show some (UInt16.ofNat (Bytes.ofLittleEndian (Bytes.littleEndian tagLength tag.toNat))) = _
  rw [hread, UInt16.ofNat_toNat]

/-- Behind the header stands the payload. -/
theorem payload_frame (h : p.encode tag payload = .ok b) : (p.frame b).payload = payload := by
  obtain ⟨_, _, rfl⟩ := encode_eq_ok_iff.mp h
  apply List.drop_left'
  simp [headerOf, frame]

end FramePolicy

/-! ## Reading what was written

The reader knows where a frame ends from its prefix alone.  Its scan of written frames goes from one
to the next, whatever their tags and payloads are, and tags and payloads are looked at afterwards.
-/

namespace Decoder

variable {p : FramePolicy} {tag : UInt16} {payload b : Bytes}

/-- **The reader finds the size that was written.** -/
theorem declaredSize_written (h : p.encode tag payload = .ok b) (rest : Bytes) :
    (ofPolicy p).declaredSize (b ++ rest) = b.length := by
  have hlen := FramePolicy.length_of_encode h
  obtain ⟨_, hfits, rfl⟩ := FramePolicy.encode_eq_ok_iff.mp h
  have hfront : ((p.headerOf tag payload ++ payload) ++ rest).take p.width.bytes =
      Bytes.littleEndian p.width.bytes (p.declaredOfSize (p.sizeOfPayload payload)) := by
    rw [FramePolicy.headerOf, List.append_assoc, List.append_assoc]
    exact List.take_left' (Bytes.length_littleEndian ..)
  show p.sizeOfDeclared (Bytes.ofLittleEndian (List.take p.width.bytes _)) = _
  rw [hfront, Bytes.ofLittleEndian_littleEndian hfits,
    FramePolicy.sizeOfDeclared_declaredOfSize (p.width_le_sizeOfPayload payload), hlen]

theorem width_le_written (h : p.encode tag payload = .ok b) (rest : Bytes) :
    p.width.bytes ≤ (b ++ rest).length := by
  have hlen := FramePolicy.length_of_encode h
  have hle := p.width_le_sizeOfPayload payload
  rw [List.length_append]
  omega

/-- A frame that was written is complete, if it is not too short. -/
theorem head_written (h : p.encode tag payload = .ok b) (hmin : p.minFrame ≤ b.length)
    (rest : Bytes) : (ofPolicy p).head (b ++ rest) = .complete b.length := by
  have hlen := FramePolicy.length_of_encode h
  have hmax := FramePolicy.length_le_of_encode h
  have hwidth := p.width_le_sizeOfPayload payload
  apply head_eq_complete_iff.mpr
  refine ⟨width_le_written h rest, ?_, declaredSize_written h rest, by simp⟩
  show (if b.length < max p.minFrame p.width.bytes then _ else if p.maxFrame < b.length then _
    else _) = none
  rw [if_neg (by omega), if_neg (by omega)]

/-- A frame that was written but is too short is refused with its size. -/
theorem head_written_short (h : p.encode tag payload = .ok b) (hmin : b.length < p.minFrame)
    (rest : Bytes) :
    (ofPolicy p).head (b ++ rest) = .outOfBounds (.tooShort b.length p.minFrame) := by
  have hlen := FramePolicy.length_of_encode h
  have hwidth := p.width_le_sizeOfPayload payload
  have hraised : max p.minFrame p.width.bytes = p.minFrame := by omega
  apply head_eq_outOfBounds_iff.mpr
  refine ⟨width_le_written h rest, ?_⟩
  rw [declaredSize_written h rest]
  show (if b.length < max p.minFrame p.width.bytes then
    some (FrameError.tooShort b.length (max p.minFrame p.width.bytes)) else _) = _
  rw [hraised, if_pos hmin]

end Decoder

/-- `p.Writes packet b`: the tag and the payload make the frame `b`, which is long enough to be read
back. -/
structure FramePolicy.Writes (p : FramePolicy) (packet : UInt16 × Bytes) (b : Bytes) : Prop where
  encodes : p.encode packet.1 packet.2 = .ok b
  minFrame_le : p.minFrame ≤ b.length

namespace Decoder

variable {p : FramePolicy} {packets : List (UInt16 × Bytes)} {frames : List Bytes}

/-- **Written frames are read back** from the front of a stream, whatever follows them. -/
theorem scan_written (h : List.Forall₂ p.Writes packets frames) (rest : Bytes) :
    (ofPolicy p).scan (frames.flatten ++ rest) =
      { (ofPolicy p).scan rest with
        frames := frames.map p.frame ++ ((ofPolicy p).scan rest).frames } := by
  induction h with
  | nil => rfl
  | @cons packet b packets frames hwrites _ ih =>
    have hhead := head_written hwrites.encodes hwrites.minFrame_le (frames.flatten ++ rest)
    rw [List.flatten_cons, List.append_assoc, scan_of_complete hhead, List.drop_left,
      List.take_left, ih]
    rfl

/-- What was written last and did not arrive as a whole is no frame yet, and no fault. -/
theorem scan_unfinished {packet : UInt16 × Bytes} {b tail : Bytes} (h : p.Writes packet b)
    (hfront : tail <+: b) (hne : tail ≠ b) :
    (ofPolicy p).scan tail = { frames := [], rest := tail, fault := none } := by
  have hhead := head_written h.encodes h.minFrame_le []
  rw [List.append_nil] at hhead
  -- the reader knows how long the frame is, and waits for the rest
  have hcut := head_take_of_complete tail.length hhead
  have hlt : ¬ b.length ≤ tail.length := fun hle => hne (hfront.eq_of_length_le hle)
  rw [if_neg hlt, ← List.prefix_iff_eq_take.mp hfront] at hcut
  exact scan_of_incomplete hcut

/-- The tags and payloads of the frames are those that were written. -/
theorem map_packet_written (h : List.Forall₂ p.Writes packets frames) :
    (frames.map p.frame).map (fun f => (f.tag?, f.payload)) =
      packets.map fun packet => (some packet.1, packet.2) := by
  induction h with
  | nil => rfl
  | cons hwrites _ ih =>
    rw [List.map_cons, List.map_cons, List.map_cons, FramePolicy.tag?_frame hwrites.encodes,
      FramePolicy.payload_frame hwrites.encodes, ih]

end Decoder

/-! ## The round trip -/

/-- **Frames survive the stream.**  For every policy, a frame is written just if it is not too large
and its length fits the prefix, in this order, and that does not depend on the send buffer.  Frames
that were written and are not too short are handed over with their tags and payloads, in order, and
nothing else is; a frame of which the end is missing is neither handed over nor at fault.  A frame
that was written and is too short is refused with its size. -/
theorem FramePolicy.stream_round_trip {m : Type → Type} [Monad m] [LawfulMonad m] (p : FramePolicy)
    (onFrame : Frame → ExceptT ConnectionError m Unit) :
    (∀ (buffer : SendBuffer) (tag : UInt16) (payload : Bytes),
      buffer.written p tag payload = p.encode tag payload ∧
      ((∃ b, p.encode tag payload = .ok b) ↔ p.headerLength + payload.length ≤ p.maxFrame ∧
        p.width.Fits (p.declaredOfSize (p.headerLength + payload.length))) ∧
      (p.maxFrame < p.headerLength + payload.length →
        p.encode tag payload = .error (.tooLarge (p.headerLength + payload.length) p.maxFrame)) ∧
      (p.headerLength + payload.length ≤ p.maxFrame →
        ¬ p.width.Fits (p.declaredOfSize (p.headerLength + payload.length)) →
          p.encode tag payload = .error
            (.unrepresentable (p.declaredOfSize (p.headerLength + payload.length))))) ∧
    (∀ (packets : List (UInt16 × Bytes)) (frames : List Bytes) (next : UInt16 × Bytes)
        (last tail : Bytes),
      List.Forall₂ p.Writes packets frames → p.Writes next last → tail <+: last → tail ≠ last →
        ∃ given : List Frame,
          given.map Frame.bytes = frames ∧
          given.map (fun f => (f.tag?, f.payload)) =
            packets.map (fun packet => (some packet.1, packet.2)) ∧
          (Decoder.ofPolicy p).decode (frames.flatten ++ tail) onFrame =
            (forM given onFrame >>= fun _ => pure frames.flatten.length)) ∧
    ∀ (tag : UInt16) (payload b rest : Bytes), p.encode tag payload = .ok b →
      b.length < p.minFrame →
        (Decoder.ofPolicy p).decode (b ++ rest) onFrame =
          throw (.protocol (.tooShort b.length p.minFrame)) := by
  refine ⟨fun buffer tag payload => ?_, fun packets frames next last tail h hnext hfront hne => ?_,
    fun tag payload b rest h hmin => ?_⟩
  · exact ⟨buffer.written_eq_encode p tag payload, exists_encode_iff, encode_of_tooLarge tag,
      encode_of_unrepresentable tag⟩
  · have hscan := Decoder.scan_written h tail
    rw [Decoder.scan_unfinished hnext hfront hne, List.append_nil] at hscan
    refine ⟨frames.map p.frame, ?_, Decoder.map_packet_written h, ?_⟩
    · rw [List.map_map]
      exact List.map_id frames
    · rw [Decoder.decode_of_no_fault onFrame (by rw [hscan]), hscan, List.length_append,
        Nat.add_sub_cancel]
  · have hscan := Decoder.scan_of_outOfBounds (Decoder.head_written_short h hmin rest)
    rw [Decoder.decode_of_fault onFrame (by rw [hscan]), hscan]
    simp

/-- A narrow policy whose prefix has four bytes and does not count itself. -/
def FramePolicy.narrow : FramePolicy where
  width := .four
  countsPrefix := false
  minFrame := 7
  maxFrame := 9

/-- The handler that writes down the tags and payloads of frames. -/
def Frame.note (f : Frame) : ExceptT ConnectionError (StateM (List (Option UInt16 × Bytes))) Unit :=
  modify (· ++ [(f.tag?, f.payload)])

/-- Two frames of the smallest and the largest size, all but one byte of a third, and a frame
without a payload, which is too short. -/
theorem FramePolicy.stream_round_trip_narrow :
    (∃ given : List Frame,
      given.map (fun f => (f.tag?, f.payload)) = [(some 1, [10]), (some 2, [20, 30, 40])] ∧
        (Decoder.ofPolicy narrow).decode
            ([[3, 0, 0, 0, 1, 0, 10], [5, 0, 0, 0, 2, 0, 20, 30, 40]].flatten ++ [3, 0, 0, 0, 3, 0])
            Frame.note = (forM given Frame.note >>= fun _ => pure 16)) ∧
      (Decoder.ofPolicy narrow).decode ([2, 0, 0, 0, 4, 0] ++ [1]) Frame.note =
        throw (.protocol (.tooShort 6 7)) := by
  obtain ⟨_, hstream, hshort⟩ := stream_round_trip narrow Frame.note
  refine ⟨?_, hshort 4 [] [2, 0, 0, 0, 4, 0] [1] rfl (by decide)⟩
  have hwritten : List.Forall₂ narrow.Writes [(1, [10]), (2, [20, 30, 40])]
      [[3, 0, 0, 0, 1, 0, 10], [5, 0, 0, 0, 2, 0, 20, 30, 40]] :=
    .cons ⟨rfl, by decide⟩ (.cons ⟨rfl, by decide⟩ .nil)
  have hnext : narrow.Writes (3, [5]) [3, 0, 0, 0, 3, 0, 5] := ⟨rfl, by decide⟩
  obtain ⟨given, _, hpackets, hdecode⟩ :=
    hstream _ _ _ _ [3, 0, 0, 0, 3, 0] hwritten hnext ⟨[5], rfl⟩ (by decide)
  exact ⟨given, hpackets, hdecode⟩

end ChatLobby
