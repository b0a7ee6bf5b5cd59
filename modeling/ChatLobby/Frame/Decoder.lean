import ChatLobby.ConnectionError

/-!
# Reading frames

A `Decoder` finds the complete frames at the front of a run of bytes.  `Decoder.scan` cuts the
bytes into frames and a rest, and says whether the rest begins with a length that is out of
bounds; `Decoder.decode` hands the frames to a handler, one after the other.

* `scan_append_rest`: the frames and the rest are the bytes that were scanned.
-/

namespace ChatLobby

/-- A framing policy under which every frame has bytes, so that reading makes progress. -/
structure Decoder where
  /-- The policy. -/
  policy : FramePolicy := {}
  /-- No acceptable frame is shorter than the length prefix. -/
  width_le : policy.width.bytes ≤ policy.minFrame := by decide

/-- What a run of bytes holds: complete frames, then a rest that is not a complete frame. -/
structure Scan where
  /-- The complete frames, in order. -/
  frames : List Frame
  /-- The bytes after the last frame. -/
  rest : Bytes
  /-- What is wrong with the length that the rest begins with, if anything. -/
  fault : Option FrameError
  deriving DecidableEq, Repr

/-- What the front of a run of bytes amounts to. -/
inductive FrameHead where
  /-- Not a whole frame yet. -/
  | incomplete
  /-- A whole frame of this size. -/
  | complete (size : Nat)
  /-- A length out of bounds. -/
  | outOfBounds (cause : FrameError)
  deriving DecidableEq, Repr

namespace Decoder

/-- The decoder for a policy; its minimum is raised to the width of the prefix. -/
def ofPolicy (p : FramePolicy) : Decoder where
  policy := { p with minFrame := max p.minFrame p.width.bytes }
  width_le := Nat.le_max_right _ _

/-- Look at the front of `b`.  The length is judged as soon as the prefix is there, too short
before too large. -/
def head (d : Decoder) (b : Bytes) : FrameHead :=
  let p := d.policy
  if !b.hasAtLeast p.width.bytes then .incomplete
  else
    let size := p.sizeOfDeclared (Bytes.ofLittleEndian (b.take p.width.bytes))
    if size < p.minFrame then .outOfBounds (.tooShort size p.minFrame)
    else if p.maxFrame < size then .outOfBounds (.tooLarge size p.maxFrame)
    else if b.hasAtLeast size then .complete size
    else .incomplete

theorem width_pos (d : Decoder) : 0 < d.policy.width.bytes := by
  cases d.policy.width <;> decide

theorem size_of_head_complete {d : Decoder} {b : Bytes} {size : Nat}
    (h : d.head b = .complete size) :
    d.policy.minFrame ≤ size ∧ size ≤ d.policy.maxFrame ∧ size ≤ b.length := by
  unfold head at h
  dsimp only at h
  split at h
  · cases h
  · split at h
    · cases h
    · split at h
      · cases h
      · split at h
        · next h₁ h₂ h₃ =>
          cases h
          exact ⟨by omega, by omega, Bytes.hasAtLeast_iff.1 h₃⟩
        · cases h

/-- A complete frame has bytes. -/
theorem pos_of_head_complete {d : Decoder} {b : Bytes} {size : Nat}
    (h : d.head b = .complete size) : 0 < size := by
  have := size_of_head_complete h
  have := d.width_le
  have := d.width_pos
  omega

/-- Cut `b` into its complete frames and the rest. -/
def scan (d : Decoder) (b : Bytes) : Scan :=
  match h : d.head b with
  | .incomplete => { frames := [], rest := b, fault := none }
  | .outOfBounds cause => { frames := [], rest := b, fault := some cause }
  | .complete size =>
    have := size_of_head_complete h
    have := pos_of_head_complete h
    let s := d.scan (b.drop size)
    { s with frames := { width := d.policy.width, bytes := b.take size } :: s.frames }
termination_by b.length
decreasing_by
  simp only [List.length_drop]
  omega

/-- Hand the complete frames of `b` to `onFrame` in order and answer how many bytes they had.
The first failure of the handler ends the run; a length out of bounds is reported after the
frames before it were handed over. -/
def decode {m : Type → Type} [Monad m] (d : Decoder) (b : Bytes)
    (onFrame : Frame → ExceptT ConnectionError m Unit) : ExceptT ConnectionError m Nat := do
  let s := d.scan b
  s.frames.forM onFrame
  match s.fault with
  | some cause => throw (.protocol cause)
  | none => return b.length - s.rest.length

/-- The frames and the rest are what was scanned. -/
theorem scan_append_rest (d : Decoder) (b : Bytes) :
    (d.scan b).frames.flatMap Frame.bytes ++ (d.scan b).rest = b := by
  fun_induction scan d b with
  | case1 => simp
  | case2 => simp
  | case3 b size _ _ _ s ih =>
    simp only [List.flatMap_cons, List.append_assoc]
    rw [ih, List.take_append_drop]

end Decoder

end ChatLobby
