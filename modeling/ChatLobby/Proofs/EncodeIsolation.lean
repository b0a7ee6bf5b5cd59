import ChatLobby.Proofs.SendDiscipline

/-!
# Encoding does not look back

The chunk in which a frame is written holds bytes of earlier frames, of attempts that failed and of
regions that were never closed.  None of them is seen in a frame: its header and its payload are
written over all of the bytes that are cut off.

The buffer is one for each thread, and a use of it may come within another one: a payload writer may
itself encode a frame.  Then it gets a fresh buffer, and the outer use goes on with its own.  What
is said here is about any list of such events, so it covers each moment at which a frame may be
written.

* `ThreadBuffer.encodedWith_eq`: what comes of writing a frame, told by its writer's region alone.
* `ThreadBuffer.encode_isolated`: a frame is the same after any events, and an attempt that fails
  changes nothing that can be seen.
-/

namespace ChatLobby

/-- A payload writer that writes into the region it is given, and so leaves it as long as it was. -/
structure InPlaceWriter (ε : Type) where
  /-- What it makes of its region, and what it reports. -/
  fill : PayloadWriter ε
  length_fill : ∀ region, (fill region).1.length = region.length

/-- What should come of writing a frame whose writer left `body` in its region: the writer's error
counts first, then that it reports too much, that the frame is too large and that its length does
not fit the prefix.  Else the frame is its length, its tag and the bytes that were reported. -/
def FramePolicy.outcome {ε : Type} (p : FramePolicy) (tag : UInt16) (maxPayload : Nat)
    (ofFrameError : FrameError → ε) (body : Bytes) : Except ε Nat → Except ε Bytes
  | .error e => .error e
  | .ok written =>
    let size := p.headerLength + written
    let declared := p.declaredOfSize size
    if maxPayload < written then .error (ofFrameError (.payloadOverrun written maxPayload))
    else if p.maxFrame < size then .error (ofFrameError (.tooLarge size p.maxFrame))
    else if p.width.Fits declared then
      .ok (Bytes.littleEndian p.width.bytes declared ++ Bytes.littleEndian tagLength tag.toNat ++
        body.take written)
    else .error (ofFrameError (.unrepresentable declared))

namespace ThreadBuffer

/-- What a thread gets that writes a frame: the bytes of the view, or the error. -/
def encodedWith {ε : Type} (t : ThreadBuffer) (p : FramePolicy) (tag : UInt16) (maxPayload : Nat)
    (fill : PayloadWriter ε) (ofFrameError : FrameError → ε) : Except ε Bytes :=
  let (t, result) := t.use (·.encodeWith p tag maxPayload fill ofFrameError)
  result.map t.current.read

/-- What a thread gets that writes a frame with a copy of `payload`. -/
def encoded (t : ThreadBuffer) (p : FramePolicy) (tag : UInt16) (payload : Bytes) :
    Except FrameError Bytes :=
  t.encodedWith p tag payload.length (PayloadWriter.copy payload) id

/-- A frame is what the writer's side of the framing says, whichever buffer it is written in. -/
theorem encoded_eq (t : ThreadBuffer) (p : FramePolicy) (tag : UInt16) (payload : Bytes) :
    t.encoded p tag payload = p.encode tag payload :=
  t.current.written_eq_encode p tag payload

/-- **Only what the writer leaves in its region counts**, and what it reports. -/
theorem encodedWith_eq {ε : Type} (t : ThreadBuffer) (p : FramePolicy) (tag : UInt16)
    (maxPayload : Nat) (writer : InPlaceWriter ε) (ofFrameError : FrameError → ε) :
    let (body, report) := writer.fill (t.current.payloadRegion p maxPayload)
    t.encodedWith p tag maxPayload writer.fill ofFrameError =
      p.outcome tag maxPayload ofFrameError body report := by
  have hwritten := t.current.writtenWith_eq p tag maxPayload ofFrameError writer.length_fill
  generalize writer.fill (t.current.payloadRegion p maxPayload) = filled at hwritten ⊢
  obtain ⟨body, _ | written⟩ := filled
  · exact hwritten
  · refine Eq.trans hwritten ?_
    show ((p.header tag maxPayload written).map (· ++ body.take written)).mapError ofFrameError = _
    rw [FramePolicy.header, FramePolicy.outcome]
    split
    · rfl
    · split
      · rfl
      · split <;> rfl

/-- **Encoding is isolated** from what a thread did with its buffer before.  A frame is the same
function of its policy, its tag and its payload, also where a use inside another one writes it; a
payload writer gets a region of the size it asked for, and only what it leaves there counts.  What
happens to the buffer, an attempt that fails included, changes neither an earlier view nor a later
frame. -/
theorem encode_isolated (size : Nat) (events : List Event) :
    let (t, views) := ({ chunkSize := size } : ThreadBuffer).run events
    (∀ (p : FramePolicy) (tag : UInt16) (payload : Bytes),
      t.encoded p tag payload = p.encode tag payload ∧
      t.fresh.written p tag payload = p.encode tag payload ∧
      ∀ b, p.encode tag payload = .ok b →
        b = Bytes.littleEndian p.width.bytes (p.declaredOfSize (p.headerLength + payload.length)) ++
          Bytes.littleEndian tagLength tag.toNat ++ payload) ∧
    (∀ (ε : Type) (p : FramePolicy) (tag : UInt16) (maxPayload : Nat) (writer : InPlaceWriter ε)
        (ofFrameError : FrameError → ε),
      let region := t.current.payloadRegion p maxPayload
      let (body, report) := writer.fill region
      region.length = maxPayload ∧
        t.encodedWith p tag maxPayload writer.fill ofFrameError =
          p.outcome tag maxPayload ofFrameError body report) ∧
    ∀ event : Event,
      (∀ v ∈ views, (t.step event).1.current.read v = t.current.read v) ∧
      ∀ (later : List Event) (p : FramePolicy) (tag : UInt16) (payload : Bytes),
        ((t.step event).1.run later).1.encoded p tag payload =
          (t.run later).1.encoded p tag payload := by
  -- the parts: what a frame is, what a writer may count on, and what an event changes
  refine ⟨fun p tag payload => ⟨encoded_eq _ p tag payload, ?_, fun b hb => ?_⟩,
    fun ε p tag maxPayload writer ofFrameError => ⟨?_, ?_⟩,
    fun event => ⟨fun v hv => ?_, fun later p tag payload => ?_⟩⟩
  · exact SendBuffer.written_eq_encode _ p tag payload
  · exact (FramePolicy.encode_eq_ok_iff.mp hb).2.2
  · exact SendBuffer.length_payloadRegion _ p maxPayload
  · exact encodedWith_eq _ p tag maxPayload writer ofFrameError
  · exact read_run rfl events [event] hv
  · rw [encoded_eq, encoded_eq]

end ThreadBuffer

end ChatLobby
