import ChatLobby.Frame.Basic

/-!
# Writing frames

`FramePolicy.header` is the one place that says when a frame can be written and what comes before
its payload.  `FramePolicy.encode` puts the payload behind it.
-/

namespace ChatLobby.FramePolicy

/-- The prefix and tag of a frame whose payload has `written` bytes out of the `capacity` it was
given.  The first obstacle counts: too many bytes reported, a frame above the maximum, a length
that the prefix cannot hold. -/
def header (p : FramePolicy) (tag : UInt16) (capacity written : Nat) : Except FrameError Bytes :=
  let size := p.headerLength + written
  let declared := p.declaredOfSize size
  if capacity < written then .error (.payloadOverrun written capacity)
  else if p.maxFrame < size then .error (.tooLarge size p.maxFrame)
  else if p.width.Fits declared then
    .ok (Bytes.littleEndian p.width.bytes declared ++ Bytes.littleEndian tagLength tag.toNat)
  else .error (.unrepresentable declared)

/-- The frame with the given tag and payload. -/
def encode (p : FramePolicy) (tag : UInt16) (payload : Bytes) : Except FrameError Bytes :=
  (p.header tag payload.length payload.length).map (· ++ payload)

theorem length_header {p : FramePolicy} {tag : UInt16} {capacity written : Nat} {b : Bytes}
    (h : p.header tag capacity written = .ok b) : b.length = p.headerLength := by
  unfold header at h
  dsimp only at h
  split at h
  · cases h
  · split at h
    · cases h
    · split at h
      · cases h; simp [headerLength]
      · cases h

end ChatLobby.FramePolicy
