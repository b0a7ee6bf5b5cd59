import ChatLobby.Frame.Decoder
import Mathlib.Algebra.GroupWithZero.Nat

/-!
# Frames of a stream that comes in chunks

A stream reaches the decoder in chunks.  `Decoder.feed` decodes after every chunk and keeps the
bytes that were not used in front of the next one.  However the stream is cut, that comes to one
`Decoder.decode` over all of it:

    feed onFrame [] chunks = do
      let used ← decode chunks.flatten onFrame
      return chunks.flatten.drop used

The equation (`feed_eq_decode`) holds in every monad, so whatever the handler of frames does, it
does the same things in the same order.  It rests on `scan_append`: what is complete, or out of
bounds, stays so when more bytes come behind it.

The second half of the module is about handlers that judge a frame by the frames before it
(`Judgement`).  There a failure has a place in the stream (`Judgement.Offence`), and the chunk that
brings its last byte is the one that fails (`Judgement.feed_eq_one_decode`).
-/

namespace ChatLobby

namespace Decoder

variable {m : Type → Type} [Monad m]

/-- Decode after every chunk.  Answers the bytes that are not used at the end. -/
def feed (d : Decoder) (onFrame : Frame → ExceptT ConnectionError m Unit) :
    (pending : Bytes) → (chunks : List Bytes) → ExceptT ConnectionError m Bytes
  | pending, [] => pure pending
  | pending, chunk :: chunks => do
    let used ← d.decode (pending ++ chunk) onFrame
    feed d onFrame ((pending ++ chunk).drop used) chunks

/-! ## What the front of a stream decides

`Decoder.head` looks at the front of the stream only: at the prefix, and at how many bytes there
are. So what it says can change only from `incomplete` to something else when bytes are added, and
only back to `incomplete` when they are taken away at the end. -/

/-- The size that the front of `b` declares for its frame. -/
def declaredSize (d : Decoder) (b : Bytes) : Nat :=
  d.policy.sizeOfDeclared (Bytes.ofLittleEndian (b.take d.policy.width.bytes))

/-- What is wrong with a declared size, if anything. -/
def sizeFault? (d : Decoder) (size : Nat) : Option FrameError :=
  if size < d.policy.minFrame then some (.tooShort size d.policy.minFrame)
  else if d.policy.maxFrame < size then some (.tooLarge size d.policy.maxFrame)
  else none

/-- The declared size is in the prefix, and what follows does not change it. -/
theorem declaredSize_append {d : Decoder} {a : Bytes} (b : Bytes)
    (h : d.policy.width.bytes ≤ a.length) : d.declaredSize (a ++ b) = d.declaredSize a := by
  rw [declaredSize, declaredSize, List.take_append_of_le_length h]

theorem declaredSize_take {d : Decoder} {k : Nat} (b : Bytes) (h : d.policy.width.bytes ≤ k) :
    d.declaredSize (b.take k) = d.declaredSize b := by
  rw [declaredSize, declaredSize, List.take_take, Nat.min_eq_left h]

/-- The number of bytes and the declared size decide what the front is. -/
theorem head_eq (d : Decoder) (b : Bytes) :
    d.head b =
      if d.policy.width.bytes ≤ b.length then
        match d.sizeFault? (d.declaredSize b) with
        | some cause => .outOfBounds cause
        | none =>
          if d.declaredSize b ≤ b.length then .complete (d.declaredSize b) else .incomplete
      else .incomplete := by
  by_cases hw : d.policy.width.bytes ≤ b.length
  · rw [head, Bytes.hasAtLeast_iff.mpr hw, if_pos hw]
    by_cases hs : d.declaredSize b ≤ b.length <;>
      grind [declaredSize, sizeFault?, Bytes.hasAtLeast_iff]
  · have hb : b.hasAtLeast d.policy.width.bytes = false := by
      rwa [Bool.eq_false_iff, ne_eq, Bytes.hasAtLeast_iff]
    rw [head, hb, if_neg hw]
    rfl

/-- A front is incomplete if it is shorter than the prefix or than what the prefix declares. -/
theorem head_eq_incomplete_iff {d : Decoder} {b : Bytes} :
    d.head b = .incomplete ↔ b.length < d.policy.width.bytes ∨
      d.sizeFault? (d.declaredSize b) = none ∧ b.length < d.declaredSize b := by
  grind [head_eq]

theorem head_eq_outOfBounds_iff {d : Decoder} {b : Bytes} {cause : FrameError} :
    d.head b = .outOfBounds cause ↔ d.policy.width.bytes ≤ b.length ∧
      d.sizeFault? (d.declaredSize b) = some cause := by
  grind [head_eq]

/-- A front is complete if it has all that its prefix declares, and that is acceptable. -/
theorem head_eq_complete_iff {d : Decoder} {b : Bytes} {size : Nat} :
    d.head b = .complete size ↔ d.policy.width.bytes ≤ b.length ∧
      d.sizeFault? size = none ∧ d.declaredSize b = size ∧ size ≤ b.length := by
  grind [head_eq]

theorem head_nil (d : Decoder) : d.head [] = .incomplete :=
  head_eq_incomplete_iff.mpr (.inl d.width_pos)

/-- A complete frame stays complete when more comes behind it. -/
theorem head_append_of_complete {d : Decoder} {a : Bytes} {size : Nat} (b : Bytes)
    (h : d.head a = .complete size) : d.head (a ++ b) = .complete size := by
  rw [head_eq_complete_iff] at h ⊢
  obtain ⟨hw, hfault, hsize, hle⟩ := h
  rw [declaredSize_append b hw, List.length_append]
  exact ⟨by omega, hfault, hsize, by omega⟩

/-- A length out of bounds stays so when more comes behind it. -/
theorem head_append_of_outOfBounds {d : Decoder} {a : Bytes} {cause : FrameError} (b : Bytes)
    (h : d.head a = .outOfBounds cause) : d.head (a ++ b) = .outOfBounds cause := by
  rw [head_eq_outOfBounds_iff] at h ⊢
  rw [declaredSize_append b h.1, List.length_append]
  exact ⟨by omega, h.2⟩

/-- A frame is not complete before its last byte. -/
theorem head_take_of_complete {d : Decoder} {b : Bytes} {size : Nat} (k : Nat)
    (h : d.head b = .complete size) :
    d.head (b.take k) = if size ≤ k then .complete size else .incomplete := by
  have hmin := size_of_head_complete h
  have hwidth := d.width_le
  obtain ⟨hw, hfault, hsize, hle⟩ := head_eq_complete_iff.mp h
  split
  · next hk =>
    rw [head_eq_complete_iff, declaredSize_take b (by omega), List.length_take]
    exact ⟨by omega, hfault, hsize, by omega⟩
  · next hk =>
    rw [head_eq_incomplete_iff, List.length_take]
    -- the cut is within the length, or else behind it but within the frame
    rcases Nat.lt_or_ge k d.policy.width.bytes with hlt | hge
    · exact .inl (by omega)
    · rw [declaredSize_take b hge, hsize]
      exact .inr ⟨hfault, by omega⟩

/-- A length is not judged before the last byte of its prefix. -/
theorem head_take_of_outOfBounds {d : Decoder} {b : Bytes} {cause : FrameError} (k : Nat)
    (h : d.head b = .outOfBounds cause) :
    d.head (b.take k) =
      if d.policy.width.bytes ≤ k then .outOfBounds cause else .incomplete := by
  obtain ⟨hw, hfault⟩ := head_eq_outOfBounds_iff.mp h
  split
  · next hk =>
    rw [head_eq_outOfBounds_iff, declaredSize_take b hk, List.length_take]
    exact ⟨by omega, hfault⟩
  · next hk =>
    rw [head_eq_incomplete_iff, List.length_take]
    exact .inl (by omega)

/-! ## Scanning more bytes

A scan is a loop over heads.  The three equations are its cases, and induction over a scan is by
these (`scan.induct`). -/

theorem scan_of_incomplete {d : Decoder} {b : Bytes} (h : d.head b = .incomplete) :
    d.scan b = { frames := [], rest := b, fault := none } := by
  rw [scan]
  split <;> simp_all

theorem scan_of_outOfBounds {d : Decoder} {b : Bytes} {cause : FrameError}
    (h : d.head b = .outOfBounds cause) :
    d.scan b = { frames := [], rest := b, fault := some cause } := by
  rw [scan]
  split <;> simp_all

/-- A complete frame is followed by the scan of what is behind it. -/
theorem scan_of_complete {d : Decoder} {b : Bytes} {size : Nat} (h : d.head b = .complete size) :
    d.scan b = { d.scan (b.drop size) with
      frames := { width := d.policy.width, bytes := b.take size } ::
        (d.scan (b.drop size)).frames } := by
  rw [scan]
  split
  · next h' => rw [h] at h'; cases h'
  · next h' => rw [h] at h'; cases h'
  · next size' h' =>
    rw [h] at h'
    cases h'
    rfl

/-- A length out of bounds ends the scan, whatever comes behind it. -/
theorem scan_append_of_fault {d : Decoder} {a : Bytes} {cause : FrameError} (b : Bytes)
    (h : (d.scan a).fault = some cause) :
    d.scan (a ++ b) =
      { frames := (d.scan a).frames, rest := (d.scan a).rest ++ b, fault := some cause } := by
  fun_induction scan d a with
  | case1 a h' => cases h
  | case2 a cause' h' =>
    cases h
    exact scan_of_outOfBounds (head_append_of_outOfBounds b h')
  | case3 a size h' hsize _ s ih =>
    rw [scan_of_complete (head_append_of_complete b h'),
      List.drop_append_of_le_length hsize.2.2, List.take_append_of_le_length hsize.2.2, ih h]

/-- **Scanning goes on where it stopped**: the frames of `a ++ b` are those of `a`, and then those
of the rest of `a` with `b` behind it. -/
theorem scan_append_of_no_fault {d : Decoder} {a : Bytes} (b : Bytes)
    (h : (d.scan a).fault = none) :
    d.scan (a ++ b) =
      { frames := (d.scan a).frames ++ (d.scan ((d.scan a).rest ++ b)).frames
        rest := (d.scan ((d.scan a).rest ++ b)).rest
        fault := (d.scan ((d.scan a).rest ++ b)).fault } := by
  fun_induction scan d a with
  | case1 a h' => rfl
  | case2 a cause h' => cases h
  | case3 a size h' hsize _ s ih =>
    rw [scan_of_complete (head_append_of_complete b h'),
      List.drop_append_of_le_length hsize.2.2, List.take_append_of_le_length hsize.2.2, ih h,
      List.cons_append]

/-! ## Decoding more bytes

A decode answers how many bytes it used, a number, which is of no use for going on.  `decodeRest`
answers the bytes that are left instead. -/

/-- What a decode does not use is the rest of the scan. -/
theorem drop_used (d : Decoder) (b : Bytes) :
    b.drop (b.length - (d.scan b).rest.length) = (d.scan b).rest := by
  have hlen := congrArg List.length (scan_append_rest d b)
  rw [List.length_append] at hlen
  conv => lhs; arg 2; rw [← scan_append_rest d b]
  rw [← hlen, Nat.add_sub_cancel, List.drop_left]

/-- The handler gets all frames before the fault is reported. -/
theorem decode_of_fault {d : Decoder} {b : Bytes} {cause : FrameError}
    (onFrame : Frame → ExceptT ConnectionError m Unit) (h : (d.scan b).fault = some cause) :
    d.decode b onFrame = (forM (d.scan b).frames onFrame >>= fun _ => throw (.protocol cause)) := by
  simp only [decode, h, List.forM_eq_forM]

theorem decode_of_no_fault {d : Decoder} {b : Bytes}
    (onFrame : Frame → ExceptT ConnectionError m Unit) (h : (d.scan b).fault = none) :
    d.decode b onFrame =
      (forM (d.scan b).frames onFrame >>= fun _ => pure (b.length - (d.scan b).rest.length)) := by
  simp only [decode, h, List.forM_eq_forM]

/-- A decode, and then what is left of the bytes. -/
def decodeRest (d : Decoder) (onFrame : Frame → ExceptT ConnectionError m Unit) (b : Bytes) :
    ExceptT ConnectionError m Bytes :=
  d.decode b onFrame >>= fun used => pure (b.drop used)

variable [LawfulMonad m]

theorem decodeRest_of_fault {d : Decoder} {b : Bytes} {cause : FrameError}
    (onFrame : Frame → ExceptT ConnectionError m Unit) (h : (d.scan b).fault = some cause) :
    d.decodeRest onFrame b =
      (forM (d.scan b).frames onFrame >>= fun _ => throw (.protocol cause)) := by
  rw [decodeRest, decode_of_fault onFrame h, bind_assoc]
  simp only [ExceptT.bind_throw]

theorem decodeRest_of_no_fault {d : Decoder} {b : Bytes}
    (onFrame : Frame → ExceptT ConnectionError m Unit) (h : (d.scan b).fault = none) :
    d.decodeRest onFrame b =
      (forM (d.scan b).frames onFrame >>= fun _ => pure (d.scan b).rest) := by
  simp only [decodeRest, decode_of_no_fault onFrame h, bind_assoc, pure_bind, drop_used]

/-- To decode and go on with more bytes is to decode it all. -/
theorem decodeRest_append (d : Decoder) (onFrame : Frame → ExceptT ConnectionError m Unit)
    (a b : Bytes) :
    (d.decodeRest onFrame a >>= fun rest => d.decodeRest onFrame (rest ++ b)) =
      d.decodeRest onFrame (a ++ b) := by
  cases ha : (d.scan a).fault with
  | some cause =>
    have hab := scan_append_of_fault b ha
    rw [decodeRest_of_fault onFrame ha, decodeRest_of_fault onFrame (by rw [hab]), hab, bind_assoc]
    simp only [ExceptT.bind_throw]
  | none =>
    have hab := scan_append_of_no_fault b ha
    rw [decodeRest_of_no_fault onFrame ha, bind_assoc]
    -- the handler has had the frames of the front; those of the rest follow
    simp only [pure_bind]
    cases hb : (d.scan ((d.scan a).rest ++ b)).fault with
    | some cause =>
      rw [decodeRest_of_fault onFrame hb, decodeRest_of_fault onFrame (by rw [hab, hb]), hab,
        List.forM_append, bind_assoc]
    | none =>
      rw [decodeRest_of_no_fault onFrame hb, decodeRest_of_no_fault onFrame (by rw [hab, hb]), hab,
        List.forM_append, bind_assoc]

theorem decodeRest_of_incomplete {d : Decoder} (onFrame : Frame → ExceptT ConnectionError m Unit)
    {b : Bytes} (h : d.head b = .incomplete) : d.decodeRest onFrame b = pure b := by
  have hscan := scan_of_incomplete h
  rw [decodeRest_of_no_fault onFrame (by rw [hscan]), hscan]
  simp

/-- **A stream comes to the same however it is cut**: to decode after every chunk is to decode
once.  `pending` is what was not used before, so it holds nothing complete. -/
theorem feed_eq_decodeRest (d : Decoder) (onFrame : Frame → ExceptT ConnectionError m Unit)
    (pending : Bytes) (chunks : List Bytes) :
    (d.decodeRest onFrame pending >>= fun rest => d.feed onFrame rest chunks) =
      d.decodeRest onFrame (pending ++ chunks.flatten) := by
  induction chunks generalizing pending with
  | nil => simp [feed]
  | cons chunk chunks ih =>
    calc (d.decodeRest onFrame pending >>= fun rest => d.feed onFrame rest (chunk :: chunks))
        = (d.decodeRest onFrame pending >>= fun rest => d.decodeRest onFrame (rest ++ chunk)) >>=
            fun rest => d.feed onFrame rest chunks := by
          simp only [feed, decodeRest, bind_assoc, pure_bind]
      _ = d.decodeRest onFrame (pending ++ chunk) >>= fun rest => d.feed onFrame rest chunks := by
          rw [decodeRest_append]
      _ = d.decodeRest onFrame (pending ++ (chunk :: chunks).flatten) := by
          rw [ih, List.flatten_cons, List.append_assoc]

/-- In the beginning nothing is pending. -/
theorem feed_eq_decode (d : Decoder) (onFrame : Frame → ExceptT ConnectionError m Unit)
    (chunks : List Bytes) :
    d.feed onFrame [] chunks = d.decodeRest onFrame chunks.flatten := by
  have h := feed_eq_decodeRest d onFrame [] chunks
  rwa [decodeRest_of_incomplete onFrame d.head_nil, pure_bind, List.nil_append] at h

/-! ## One frame at a time

For statements about a single frame the scan is taken apart again, one frame at a time.  The handler
is called between two steps, and it may stop the decode there. -/

/-- The frame of `size` bytes at the front of `b`. -/
def frameAt (d : Decoder) (b : Bytes) (size : Nat) : Frame :=
  { width := d.policy.width, bytes := b.take size }

theorem decodeRest_of_outOfBounds {d : Decoder} {b : Bytes} {cause : FrameError}
    (onFrame : Frame → ExceptT ConnectionError m Unit) (h : d.head b = .outOfBounds cause) :
    d.decodeRest onFrame b = throw (.protocol cause) := by
  have hscan := scan_of_outOfBounds h
  rw [decodeRest_of_fault onFrame (by rw [hscan]), hscan]
  simp

/-- A complete frame is handed over, and then the decode goes on behind it. -/
theorem decodeRest_of_complete {d : Decoder} {b : Bytes} {size : Nat}
    (onFrame : Frame → ExceptT ConnectionError m Unit) (h : d.head b = .complete size) :
    d.decodeRest onFrame b =
      (onFrame (d.frameAt b size) >>= fun _ => d.decodeRest onFrame (b.drop size)) := by
  have hscan := scan_of_complete h
  cases hf : (d.scan (b.drop size)).fault with
  | some cause =>
    rw [decodeRest_of_fault onFrame (by rw [hscan, hf]), decodeRest_of_fault onFrame hf, hscan,
      List.forM_cons, bind_assoc]
    rfl
  | none =>
    rw [decodeRest_of_no_fault onFrame (by rw [hscan, hf]), decodeRest_of_no_fault onFrame hf,
      hscan, List.forM_cons, bind_assoc]
    rfl

end Decoder

/-! ## Handlers that judge a frame by those before it

The equation above leaves open what the handler does.  To say which chunk fails one has to know
where it refuses a frame.  A handler that keeps a list of the frames it was given, and answers by
it, is as general as any that sees nothing but frames. -/

/-- What came of handing over a frame: it was accepted, it was refused with a cause, or (`none`)
the handler broke down over it. -/
abbrev Verdict := Option (Except ConnectionError Unit)

/-- The verdict of a handler on a frame, after the frames before it. -/
abbrev Judgement := (seen : List Frame) → Frame → Verdict

/-- How something ended, without its result. -/
def verdictOf {α : Type} (outcome : Option (Except ConnectionError α)) : Verdict :=
  outcome.map (·.map fun _ => ())

namespace Judgement

/-- The handler of frames that judges like this, and writes down what it was given. -/
def onFrame (judge : Judgement) (f : Frame) :
    ExceptT ConnectionError (OptionT (StateM (List Frame))) Unit :=
  .mk (.mk fun seen => (judge seen f, seen ++ [f]))

variable (judge : Judgement) (d : Decoder)

/-- One decode: how it ends, and the frames that were handed over. -/
def decode (b : Bytes) : Option (Except ConnectionError Nat) × List Frame :=
  (d.decode b judge.onFrame).run.run.run []

/-- A decode after every chunk: how it ends, and the frames that were handed over. -/
def feed (chunks : List Bytes) : Option (Except ConnectionError Bytes) × List Frame :=
  (d.feed judge.onFrame [] chunks).run.run.run []

/-- A decode after `seen`, in terms of what is left of the bytes. -/
def decodeRest (seen : List Frame) (b : Bytes) :
    Option (Except ConnectionError Bytes) × List Frame :=
  (d.decodeRest judge.onFrame b).run.run.run seen

/-- Chunk by chunk is all at once. -/
theorem feed_eq (chunks : List Bytes) :
    judge.feed d chunks = judge.decodeRest d [] chunks.flatten := by
  rw [feed, Decoder.feed_eq_decode, decodeRest]

theorem run_bind {α β : Type} (x : ExceptT ConnectionError (OptionT (StateM (List Frame))) α)
    (f : α → ExceptT ConnectionError (OptionT (StateM (List Frame))) β) (seen : List Frame) :
    (x >>= f).run.run.run seen =
      match x.run.run.run seen with
      | (some (.ok a), seen) => (f a).run.run.run seen
      | (some (.error cause), seen) => (some (.error cause), seen)
      | (none, seen) => (none, seen) := by
  simp only [ExceptT.run_bind, OptionT.run_bind, Option.elimM, StateT.run_bind]
  rcases x.run.run.run seen with ⟨_ | _ | _, seen'⟩ <;> rfl

/-- What is left is computed from what was used. -/
theorem decodeRest_eq_run (seen : List Frame) (b : Bytes) :
    judge.decodeRest d seen b =
      (((d.decode b judge.onFrame).run.run.run seen).1.map (·.map b.drop),
        ((d.decode b judge.onFrame).run.run.run seen).2) := by
  rw [decodeRest, Decoder.decodeRest, run_bind]
  rcases (d.decode b judge.onFrame).run.run.run seen with ⟨_ | _ | _, seen'⟩ <;> rfl

theorem decodeRest_eq_decode (b : Bytes) :
    judge.decodeRest d [] b =
      ((judge.decode d b).1.map (·.map b.drop), (judge.decode d b).2) :=
  decodeRest_eq_run judge d [] b

variable {judge d} {seen : List Frame} {b : Bytes}

/-- A decode goes on where another has ended. -/
theorem decodeRest_append_of_ok {a rest : Bytes} {seen' : List Frame}
    (h : judge.decodeRest d seen a = (some (.ok rest), seen')) (b : Bytes) :
    judge.decodeRest d seen (a ++ b) = judge.decodeRest d seen' (rest ++ b) := by
  rw [decodeRest] at h
  rw [decodeRest, ← Decoder.decodeRest_append, run_bind, h]
  rfl

theorem decodeRest_append_of_failure {a : Bytes} {outcome} {seen' : List Frame}
    (h : judge.decodeRest d seen a = (outcome, seen'))
    (hfail : verdictOf outcome ≠ some (.ok ())) (b : Bytes) :
    judge.decodeRest d seen (a ++ b) = (outcome, seen') := by
  rw [decodeRest] at h
  rw [decodeRest, ← Decoder.decodeRest_append, run_bind, h]
  rcases outcome with _ | _ | _
  · rfl
  · rfl
  · exact absurd rfl hfail

theorem used_le {used : Nat} {frames : List Frame}
    (h : (d.decode b judge.onFrame).run.run.run seen = (some (.ok used), frames)) :
    used ≤ b.length := by
  cases hfault : (d.scan b).fault with
  | some cause =>
    rw [Decoder.decode_of_fault _ hfault, run_bind] at h
    split at h <;> cases h
  | none =>
    rw [Decoder.decode_of_no_fault _ hfault, run_bind] at h
    split at h
    · cases h
      exact Nat.sub_le _ _
    · cases h
    · cases h

theorem decodeRest_of_incomplete (h : d.head b = .incomplete) :
    judge.decodeRest d seen b = (some (.ok b), seen) := by
  rw [decodeRest, Decoder.decodeRest_of_incomplete _ h]
  rfl

theorem decodeRest_of_outOfBounds {cause : FrameError} (h : d.head b = .outOfBounds cause) :
    judge.decodeRest d seen b = (some (.error (.protocol cause)), seen) := by
  rw [decodeRest, Decoder.decodeRest_of_outOfBounds _ h]
  rfl

/-- After an accepted frame the decode goes on, with that frame seen. -/
theorem decodeRest_of_accepted {size : Nat} (h : d.head b = .complete size)
    (hjudge : judge seen (d.frameAt b size) = some (.ok ())) :
    judge.decodeRest d seen b =
      judge.decodeRest d (seen ++ [d.frameAt b size]) (b.drop size) := by
  have hframe : (judge.onFrame (d.frameAt b size)).run.run.run seen =
      (some (.ok ()), seen ++ [d.frameAt b size]) := by rw [← hjudge]; rfl
  rw [decodeRest, Decoder.decodeRest_of_complete _ h, run_bind, hframe]
  rfl

/-- A frame that is not accepted ends the decode, and its verdict is the outcome. -/
theorem decodeRest_of_rejected {size : Nat} (h : d.head b = .complete size)
    (hjudge : judge seen (d.frameAt b size) ≠ some (.ok ())) :
    ∃ outcome, judge.decodeRest d seen b = (outcome, seen ++ [d.frameAt b size]) ∧
      verdictOf outcome = judge seen (d.frameAt b size) := by
  have hframe : (judge.onFrame (d.frameAt b size)).run.run.run seen =
      (judge seen (d.frameAt b size), seen ++ [d.frameAt b size]) := rfl
  rw [decodeRest, Decoder.decodeRest_of_complete _ h, run_bind, hframe]
  rcases hv : judge seen (d.frameAt b size) with _ | cause | ⟨⟨⟩⟩
  · exact ⟨none, rfl, rfl⟩
  · exact ⟨some (.error cause), rfl, rfl⟩
  · exact absurd hv hjudge

/-! ## Where a stream fails

An offence is in the stream and not in a chunk: the last byte of a length that is out of bounds, or
of a frame that is refused.  The chunk that fails is then the first one that reaches this byte. -/

/-- How many bytes frames have altogether. -/
def size (frames : List Frame) : Nat := (frames.map Frame.length).sum

@[simp] theorem size_nil : size [] = 0 := rfl

@[simp] theorem size_append (fs gs : List Frame) : size (fs ++ gs) = size fs + size gs := by
  simp [size]

theorem size_frameAt {size : Nat} (h : d.head b = .complete size) :
    Judgement.size [d.frameAt b size] = size := by
  simp [Judgement.size, Decoder.frameAt, Frame.length, (Decoder.size_of_head_complete h).2.2]

/-- `judge.Offence d stream frames verdict n`: after handing over `frames`, the decode of `stream`
ends with `verdict` on account of the bytes that end at `n`.  These are the length behind the
frames, if it is out of bounds, or else the last of the frames. -/
inductive Offence (judge : Judgement) (d : Decoder) (stream : Bytes) (frames : List Frame) :
    Verdict → Nat → Prop
  | length {cause : FrameError} : d.head (stream.drop (size frames)) = .outOfBounds cause →
      Offence judge d stream frames (some (.error (.protocol cause)))
        (size frames + d.policy.width.bytes)
  | frame {before : List Frame} {f : Frame} : frames = before ++ [f] →
      judge before f ≠ some (.ok ()) → Offence judge d stream frames (judge before f) (size frames)

/-! ### Decoding a front

The front `b.take k` of bytes that begin with a complete frame hands that frame over as soon as it
has all of it. -/

theorem decodeRest_take_of_lt {sz k : Nat} (h : d.head b = .complete sz) (hk : k < sz) :
    judge.decodeRest d seen (b.take k) = (some (.ok (b.take k)), seen) := by
  apply decodeRest_of_incomplete
  rw [Decoder.head_take_of_complete k h, if_neg (by omega)]

theorem frameAt_take {sz k : Nat} (hk : sz ≤ k) : d.frameAt (b.take k) sz = d.frameAt b sz := by
  rw [Decoder.frameAt, Decoder.frameAt, List.take_take, Nat.min_eq_left hk]

theorem decodeRest_take_of_accepted {sz k : Nat} (h : d.head b = .complete sz) (hk : sz ≤ k)
    (hjudge : judge seen (d.frameAt b sz) = some (.ok ())) :
    judge.decodeRest d seen (b.take k) =
      judge.decodeRest d (seen ++ [d.frameAt b sz]) ((b.drop sz).take (k - sz)) := by
  have hfront : d.head (b.take k) = .complete sz := by
    rw [Decoder.head_take_of_complete k h, if_pos hk]
  rw [decodeRest_of_accepted hfront (by rwa [frameAt_take hk]), frameAt_take hk, List.drop_take]

theorem decodeRest_take_of_rejected {sz k : Nat} (h : d.head b = .complete sz) (hk : sz ≤ k)
    (hjudge : judge seen (d.frameAt b sz) ≠ some (.ok ())) :
    verdictOf (judge.decodeRest d seen (b.take k)).1 = judge seen (d.frameAt b sz) := by
  have hfront : d.head (b.take k) = .complete sz := by
    rw [Decoder.head_take_of_complete k h, if_pos hk]
  obtain ⟨outcome, hrest, hverdict⟩ := decodeRest_of_rejected hfront (by rwa [frameAt_take hk])
  rw [hrest, hverdict, frameAt_take hk]

/-- The front of a stream fails just if it reaches the end of the offence.  `seen` are the frames
that were handed over already, and `b` is what follows them in the stream.  The induction is on
`b`, one frame at a time. -/
theorem exists_offence (stream : Bytes) {outcome} {frames : List Frame}
    (hb : stream.drop (size seen) = b) (h : judge.decodeRest d seen b = (outcome, frames))
    (hfail : verdictOf outcome ≠ some (.ok ())) :
    ∃ n, size seen ≤ n ∧ judge.Offence d stream frames (verdictOf outcome) n ∧
      ∀ k, verdictOf (judge.decodeRest d seen (b.take k)).1 ≠ some (.ok ()) ↔
        n ≤ size seen + k := by
  induction hlen : b.length using Nat.strongRecOn generalizing seen b with
  | _ len ih =>
    cases hhead : d.head b with
    | incomplete =>
      rw [decodeRest_of_incomplete hhead] at h
      obtain ⟨rfl, rfl⟩ := Prod.mk.inj h
      exact absurd rfl hfail
    | outOfBounds cause =>
      rw [decodeRest_of_outOfBounds hhead] at h
      obtain ⟨rfl, rfl⟩ := Prod.mk.inj h
      refine ⟨size seen + d.policy.width.bytes, by omega, .length (hb ▸ hhead), fun k => ?_⟩
      have hfront := Decoder.head_take_of_outOfBounds k hhead
      split at hfront
      · rw [decodeRest_of_outOfBounds hfront]
        exact ⟨fun _ => by omega, fun _ => hfail⟩
      · rw [decodeRest_of_incomplete hfront]
        exact ⟨fun hne => absurd rfl hne, fun _ => by omega⟩
    | complete sz =>
      have hsz : size (seen ++ [d.frameAt b sz]) = size seen + sz := by
        rw [size_append, size_frameAt hhead]
      by_cases hjudge : judge seen (d.frameAt b sz) = some (.ok ())
      · rw [decodeRest_of_accepted hhead hjudge] at h
        -- the frame is good, so the offence lies behind it
        have hlt : (b.drop sz).length < len := by
          have := Decoder.pos_of_head_complete hhead
          have := (Decoder.size_of_head_complete hhead).2.2
          rw [← hlen, List.length_drop]
          omega
        have hdrop : stream.drop (size (seen ++ [d.frameAt b sz])) = b.drop sz := by
          rw [hsz, ← List.drop_drop, hb]
        obtain ⟨n, hn, hoff, hiff⟩ := ih _ hlt hdrop h rfl
        refine ⟨n, by omega, hoff, fun k => ?_⟩
        -- a front without the whole frame does not even get to the offence
        rcases Nat.lt_or_ge k sz with hk | hk
        · rw [decodeRest_take_of_lt hhead hk]
          exact ⟨fun hne => absurd rfl hne, fun _ => by omega⟩
        · rw [decodeRest_take_of_accepted hhead hk hjudge, hiff]
          omega
      · obtain ⟨bad, hbad, hverdict⟩ := decodeRest_of_rejected hhead hjudge
        obtain ⟨rfl, rfl⟩ := Prod.mk.inj (h.symm.trans hbad)
        rw [hverdict]
        refine ⟨size (seen ++ [d.frameAt b sz]), by omega, .frame rfl hjudge, fun k => ?_⟩
        rcases Nat.lt_or_ge k sz with hk | hk
        · rw [decodeRest_take_of_lt hhead hk]
          exact ⟨fun hne => absurd rfl hne, fun _ => by omega⟩
        · rw [decodeRest_take_of_rejected hhead hk hjudge]
          exact ⟨fun _ => by omega, fun _ => hjudge⟩

/-- How something ended does not depend on its result. -/
theorem verdictOf_map {α β : Type} (g : α → β) (outcome : Option (Except ConnectionError α)) :
    verdictOf (outcome.map (·.map g)) = verdictOf outcome := by
  rcases outcome with _ | _ | _ <;> rfl

/-- **The cutting of a stream does not matter.**  Chunk by chunk, the same frames are handed over
as by one decode of the whole stream, with the same end; if that is no failure, what is left is the
stream without what the one decode used.  If it is a failure, it happens in the chunk that brings
the last byte of the length that is out of bounds, or of the frame that is not accepted. -/
theorem feed_eq_one_decode (judge : Judgement) (d : Decoder) (chunks : List Bytes) :
    judge.feed d chunks =
        ((judge.decode d chunks.flatten).1.map (·.map chunks.flatten.drop),
          (judge.decode d chunks.flatten).2) ∧
      (verdictOf (judge.decode d chunks.flatten).1 ≠ some (.ok ()) →
        ∃ n, judge.Offence d chunks.flatten (judge.decode d chunks.flatten).2
            (verdictOf (judge.decode d chunks.flatten).1) n ∧
          ∀ k, verdictOf (judge.feed d (chunks.take k)).1 ≠ some (.ok ()) ↔
            n ≤ (chunks.take k).flatten.length) := by
  refine ⟨by rw [feed_eq, decodeRest_eq_decode], fun hfail => ?_⟩
  have hrest := decodeRest_eq_decode judge d chunks.flatten
  have hstart : chunks.flatten.drop (size []) = chunks.flatten := List.drop_zero
  obtain ⟨n, -, hoff, hiff⟩ :=
    exists_offence chunks.flatten hstart hrest (by rwa [verdictOf_map])
  rw [verdictOf_map] at hoff
  refine ⟨n, hoff, fun k => ?_⟩
  -- some of the chunks are a front of the stream
  have hfront : chunks.flatten.take (chunks.take k).flatten.length = (chunks.take k).flatten := by
    conv => lhs; arg 2; rw [← List.take_append_drop k chunks]
    rw [List.flatten_append, List.take_left]
  have hk := hiff (chunks.take k).flatten.length
  rwa [hfront, size_nil, Nat.zero_add, ← feed_eq] at hk

end Judgement

end ChatLobby
