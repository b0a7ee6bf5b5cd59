import ChatLobby.Frame.Encode

/-!
# Frames written in the send buffer

A frame is written in place: the payload writer gets its part of the region, then the header goes
in front, and the whole is cut off as one view.  A failed attempt leaves its bytes in the chunk
and its region open; the next frame is written over them.
-/

namespace ChatLobby

/-- What a payload writer does: given its region, it leaves the region as it likes and reports
how many bytes it wrote, or fails. -/
abbrev PayloadWriter (ε : Type) := Bytes → Bytes × Except ε Nat

/-- The writer that copies `payload` to the start of its region. -/
def PayloadWriter.copy {ε : Type} (payload : Bytes) : PayloadWriter ε :=
  fun region => (region.overwrite 0 payload, .ok payload.length)

namespace SendBuffer

/-- Write a frame whose payload has at most `maxPayload` bytes and comes from `fill`.  The
writer's own failure comes first, then what stands against the header. -/
def encodeWith {ε : Type} (b : SendBuffer) (p : FramePolicy) (tag : UInt16) (maxPayload : Nat)
    (fill : PayloadWriter ε) (ofFrameError : FrameError → ε) : SendBuffer × Except ε View :=
  let b := b.reserve (p.headerLength + maxPayload)
  let (body, report) := fill ((b.region.drop p.headerLength).take maxPayload)
  let b := b.write p.headerLength (body.take maxPayload)
  match report with
  | .error e => (b, .error e)
  | .ok written =>
    match p.header tag maxPayload written with
    | .error e => (b, .error (ofFrameError e))
    | .ok header =>
      let (b, closed) := (b.write 0 header).close (p.headerLength + written)
      (b, closed.mapError fun e => ofFrameError (.sendBuffer e))

/-- Write a frame with a copy of `payload`. -/
def encode (b : SendBuffer) (p : FramePolicy) (tag : UInt16) (payload : Bytes) :
    SendBuffer × Except FrameError View :=
  b.encodeWith p tag payload.length (PayloadWriter.copy payload) id

end SendBuffer

end ChatLobby
