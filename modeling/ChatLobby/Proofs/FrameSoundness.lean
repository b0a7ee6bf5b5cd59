import ChatLobby.Proofs.FrameRoundTrip

/-!
# What a decoder hands over

The reader's side of the framing, for any bytes at all: nobody says that a writer of frames made
them.

A scan is told by two things: each of its frames is whole, and what is left of the bytes begins with
nothing that could be handed over.  Both are about what the scan has made, not about how it went on,
so that the induction is done here once, in each of the two lemmas, and never again.

* `Decoder.Whole`: what a frame is that a decoder hands over.  It is about the frame alone, not
  about the bytes around it, so `Decoder.whole_of_mem_scan` is an induction over the scan.
* `Decoder.head_rest_of_no_fault`, `Decoder.head_rest_of_fault`: where a scan stops.
* `Decoder.encode_of_whole`: a frame is its tag and its payload, written under the same policy.
* `FramePolicy.decode_sound`: all of this about `Decoder.decode`.
-/

namespace ChatLobby

/-! ## Numbers that were read

A writer makes a number into bytes, and a reader makes bytes into a number.  For writing a frame
again the other order is needed: no bytes of the right count are lost on the way. -/

namespace Bytes

/-- Bytes that are read as a number are what is written for it in as many bytes. -/
theorem littleEndian_ofLittleEndian (b : Bytes) : littleEndian b.length (ofLittleEndian b) = b := by
  induction b with
  | nil => rfl
  | cons x rest ih =>
    have hx := x.toNat_lt
    have hlow : UInt8.ofNat (x.toNat + 256 * ofLittleEndian rest) = x := by
      apply UInt8.toNat_inj.mp
      rw [UInt8.toNat_ofNat']
      omega
    have hhigh : (x.toNat + 256 * ofLittleEndian rest) / 256 = ofLittleEndian rest := by omega
    rw [List.length_cons, ofLittleEndian, littleEndian, hlow, hhigh, ih]

end Bytes

namespace FramePolicy

/-- A declared length is declared again for the size that it stands for. -/
theorem declaredOfSize_sizeOfDeclared (p : FramePolicy) (declared : Nat) :
    p.declaredOfSize (p.sizeOfDeclared declared) = declared := by
  unfold declaredOfSize sizeOfDeclared
  split
  · rfl
  · exact Nat.add_sub_cancel ..

end FramePolicy

namespace Decoder

variable {d : Decoder} {b : Bytes} {f : Frame}

/-! ## Where a scan stops

The end of a scan is where its head says so.  With the fault comes its cause, and the order of the
two tests decides which one is told of a size that fails both. -/

/-- A scan without a fault stops at what is not a whole frame yet. -/
theorem head_rest_of_no_fault (h : (d.scan b).fault = none) :
    d.head (d.scan b).rest = .incomplete := by
  fun_induction scan d b with
  | case1 b hhead => exact hhead
  | case2 b cause hhead => cases h
  | case3 b size hhead hsize hpos s ih => exact ih h

/-- A scan with a fault stops at the length that is out of bounds. -/
theorem head_rest_of_fault {cause : FrameError} (h : (d.scan b).fault = some cause) :
    d.head (d.scan b).rest = .outOfBounds cause := by
  fun_induction scan d b with
  | case1 b hhead => cases h
  | case2 b cause' hhead =>
    cases h
    exact hhead
  | case3 b size hhead hsize hpos s ih => exact ih h

/-- What is wrong with a size: too short is tested before too large. -/
theorem sizeFault?_eq_some_iff {size : Nat} {cause : FrameError} :
    d.sizeFault? size = some cause ↔
      size < d.policy.minFrame ∧ cause = .tooShort size d.policy.minFrame ∨
        d.policy.minFrame ≤ size ∧ d.policy.maxFrame < size ∧
          cause = .tooLarge size d.policy.maxFrame := by
  grind [sizeFault?]

/-- A size is acceptable just if it lies within both bounds. -/
theorem sizeFault?_eq_none_iff {size : Nat} :
    d.sizeFault? size = none ↔ d.policy.minFrame ≤ size ∧ size ≤ d.policy.maxFrame := by
  grind [sizeFault?]

/-! ## The frames of a scan

Not every frame of acceptable size is one that a decoder makes: the prefix has to agree with the
size. -/

/-- A frame that `d` may hand over: its size is acceptable, and its prefix declares that size. -/
structure Whole (d : Decoder) (f : Frame) : Prop where
  width_eq : f.width = d.policy.width
  minFrame_le : d.policy.minFrame ≤ f.length
  le_maxFrame : f.length ≤ d.policy.maxFrame
  declaredSize_eq : d.declaredSize f.bytes = f.length

/-- The bounds of a decoder leave room for the prefix, whatever the policy says. -/
theorem Whole.width_le_length (h : d.Whole f) : d.policy.width.bytes ≤ f.length :=
  Nat.le_trans d.width_le h.minFrame_le

/-- What is cut off the front as a complete frame is whole. -/
theorem whole_frameAt {size : Nat} (h : d.head b = .complete size) :
    d.Whole (d.frameAt b size) := by
  obtain ⟨hmin, hmax, hle⟩ := size_of_head_complete h
  obtain ⟨hw, -, hsize, -⟩ := head_eq_complete_iff.mp h
  have hlen : (d.frameAt b size).length = size := by
    rw [frameAt, Frame.length, List.length_take, Nat.min_eq_left hle]
  -- the frame has its whole prefix, so it declares what the bytes declared
  have hdeclared : d.declaredSize (b.take size) = d.declaredSize b :=
    declaredSize_take b (Nat.le_trans d.width_le hmin)
  constructor
  · rfl
  · rwa [hlen]
  · rwa [hlen]
  · rw [hlen]
    exact hdeclared.trans hsize

/-- **Every frame of a scan is whole.** -/
theorem whole_of_mem_scan (h : f ∈ (d.scan b).frames) : d.Whole f := by
  fun_induction scan d b with
  | case1 b hhead => cases h
  | case2 b cause hhead => cases h
  | case3 b size hhead hsize hpos s ih =>
    cases h with
    | head => exact whole_frameAt hhead
    | tail _ hmem => exact ih hmem

/-! ## Writing a frame again

The bytes of a whole frame are its prefix, its tag and its payload.  The tag and the payload are
what a writer is given, so that only the prefix may differ; and it declares the size, in as many
bytes. -/

/-- Behind the prefix of a frame that is long enough there are the two bytes of its tag. -/
theorem exists_tag? (hlen : f.width.bytes + tagLength ≤ f.length) :
    ∃ tag, f.tag? = some tag ∧
      f.bytes.drop f.width.bytes = Bytes.littleEndian tagLength tag.toNat ++ f.payload := by
  have hrest : tagLength ≤ (f.bytes.drop f.width.bytes).length := by
    rw [List.length_drop]
    exact Nat.le_sub_of_add_le' hlen
  have hpayload : f.payload = (f.bytes.drop f.width.bytes).drop tagLength := by
    rw [Frame.payload, List.drop_drop]
  rw [hpayload]
  unfold Frame.tag?
  match hdrop : f.bytes.drop f.width.bytes with
  | [] | [_] => simp [hdrop, tagLength] at hrest
  | low :: high :: rest =>
    have hlt : Bytes.ofLittleEndian [low, high] < UInt16.size := Bytes.ofLittleEndian_lt [low, high]
    refine ⟨_, rfl, ?_⟩
    rw [show (UInt16.ofNat (Bytes.ofLittleEndian [low, high])).toNat = _ from
      Nat.mod_eq_of_lt hlt]
    show low :: high :: rest = Bytes.littleEndian [low, high].length _ ++ rest
    rw [Bytes.littleEndian_ofLittleEndian]
    rfl

/-- **A frame is its tag and its payload.**  Written under the policy it was read with, they give
the same bytes again: the prefix cannot have been anything else. -/
theorem encode_of_whole (h : d.Whole f) (hlen : d.policy.headerLength ≤ f.length) :
    ∃ tag, f.tag? = some tag ∧ d.policy.encode tag f.payload = .ok f.bytes := by
  have hwidth := h.width_le_length
  obtain ⟨tag, htag, hbody⟩ := exists_tag? (f := f) (by rwa [h.width_eq])
  rw [h.width_eq] at hbody
  have hsize : d.policy.sizeOfPayload f.payload = f.length := by
    rw [FramePolicy.sizeOfPayload, Frame.payload, List.length_drop, h.width_eq]
    exact Nat.add_sub_cancel' hlen
  have hfront : (f.bytes.take d.policy.width.bytes).length = d.policy.width.bytes := by
    rw [List.length_take]
    exact Nat.min_eq_left hwidth
  -- what is declared for the size is what was read
  have hdeclared : d.policy.declaredOfSize f.length =
      Bytes.ofLittleEndian (f.bytes.take d.policy.width.bytes) := by
    rw [← h.declaredSize_eq]
    exact d.policy.declaredOfSize_sizeOfDeclared _
  refine ⟨tag, htag, FramePolicy.encode_eq_ok_iff.mpr ⟨?_, ?_, ?_⟩⟩
  · rw [hsize]
    exact h.le_maxFrame
  · rw [hsize, hdeclared, PrefixWidth.Fits]
    have hlt := Bytes.ofLittleEndian_lt (f.bytes.take d.policy.width.bytes)
    rwa [hfront] at hlt
  · have hread := Bytes.littleEndian_ofLittleEndian (f.bytes.take d.policy.width.bytes)
    rw [hfront] at hread
    rw [FramePolicy.headerOf, hsize, hdeclared, hread, List.append_assoc, ← hbody,
      List.take_append_drop]

/-! ## A decode with nothing refused

Which frames a decode hands over depends on the handler only by its refusals.  A handler that
accepts everything is one that acts in any monad, without errors of its own. -/

/-- How the decode of `b` ends, if the handler accepts every frame. -/
def result (d : Decoder) (b : Bytes) : Except ConnectionError Nat :=
  match (d.scan b).fault with
  | some cause => .error (.protocol cause)
  | none => .ok (b.length - (d.scan b).rest.length)

/-- Acting without errors on each of a list of frames is acting on the list without errors. -/
theorem forM_lift {m : Type → Type} [Monad m] [LawfulMonad m] (frames : List Frame)
    (act : Frame → m Unit) :
    forM frames (fun f => (ExceptT.lift (act f) : ExceptT ConnectionError m Unit)) =
      ExceptT.lift (forM frames act) := by
  induction frames with
  | nil =>
    apply ExceptT.ext
    simp
  | cons f frames ih =>
    rw [List.forM_cons, List.forM_cons, ih]
    apply ExceptT.ext
    simp

/-- A handler that accepts everything acts on every frame of the scan, and then the decode ends. -/
theorem run_decode_lift {m : Type → Type} [Monad m] [LawfulMonad m] (d : Decoder) (b : Bytes)
    (act : Frame → m Unit) :
    (d.decode b fun f => ExceptT.lift (act f)).run =
      (forM (d.scan b).frames act >>= fun _ => pure (d.result b)) := by
  unfold result
  cases hfault : (d.scan b).fault with
  | some cause =>
    rw [decode_of_fault _ hfault, forM_lift]
    simp
  | none =>
    rw [decode_of_no_fault _ hfault, forM_lift]
    simp [Except.map]

/-- What a decode does not use begins with no whole frame and no length out of bounds; what makes it
fail is the length behind the frames. -/
theorem result_spec (d : Decoder) (b : Bytes) :
    match d.result b with
    | .ok used => used ≤ b.length ∧ (d.scan b).frames.flatMap Frame.bytes = b.take used ∧
        d.head (b.drop used) = .incomplete
    | .error e => ∃ rest cause, (d.scan b).frames.flatMap Frame.bytes ++ rest = b ∧
        d.head rest = .outOfBounds cause ∧ e = .protocol cause := by
  have hcut := scan_append_rest d b
  unfold result
  cases hfault : (d.scan b).fault with
  | some cause => exact ⟨_, cause, hcut, head_rest_of_fault hfault, rfl⟩
  | none =>
    have hlen := congrArg List.length hcut
    rw [List.length_append] at hlen
    dsimp only
    refine ⟨Nat.sub_le _ _, ?_, ?_⟩
    · conv => rhs; arg 2; rw [← hcut]
      rw [← hlen, Nat.add_sub_cancel, List.take_left]
    · rw [drop_used]
      exact head_rest_of_no_fault hfault

end Decoder

/-! ## Soundness -/

/-- **A decoder hands over just what is there.**  For every policy, whatever its bounds, and all
bytes, a handler that accepts every frame is given the frames in front, one after the other.  Their
sizes are acceptable, and one that has room for a tag is what is written for its tag and payload, in
any send buffer.  The decode goes on until what is left is not yet a prefix, or not yet the frame of
an acceptable size that it begins with; or it fails on the first length that is out of bounds. -/
theorem FramePolicy.decode_sound (p : FramePolicy) (b : Bytes) :
    ∃ (frames : List Frame) (result : Except ConnectionError Nat),
      (∀ (m : Type → Type) [Monad m] [LawfulMonad m] (act : Frame → m Unit),
        ((Decoder.ofPolicy p).decode b fun f => ExceptT.lift (act f)).run =
          (forM frames act >>= fun _ => pure result)) ∧
      (match result with
        | .ok used =>
          used ≤ b.length ∧ frames.flatMap Frame.bytes = b.take used ∧
            ((b.drop used).length < p.width.bytes ∨
              max p.minFrame p.width.bytes ≤ (Decoder.ofPolicy p).declaredSize (b.drop used) ∧
              (Decoder.ofPolicy p).declaredSize (b.drop used) ≤ p.maxFrame ∧
              (b.drop used).length < (Decoder.ofPolicy p).declaredSize (b.drop used))
        | .error e =>
          ∃ rest size, frames.flatMap Frame.bytes ++ rest = b ∧ p.width.bytes ≤ rest.length ∧
            size = (Decoder.ofPolicy p).declaredSize rest ∧
            (size < max p.minFrame p.width.bytes ∧
                e = .protocol (.tooShort size (max p.minFrame p.width.bytes)) ∨
              max p.minFrame p.width.bytes ≤ size ∧ p.maxFrame < size ∧
                e = .protocol (.tooLarge size p.maxFrame))) ∧
      ∀ f ∈ frames,
        (f.width = p.width ∧ p.minFrame ≤ f.length ∧ f.length ≤ p.maxFrame ∧
          p.width.bytes ≤ f.length) ∧
        (p.headerLength ≤ f.length → ∃ tag, f.tag? = some tag ∧ ∀ buffer : SendBuffer,
          buffer.written (Decoder.ofPolicy p).policy tag f.payload = .ok f.bytes) := by
  refine ⟨((Decoder.ofPolicy p).scan b).frames, (Decoder.ofPolicy p).result b,
    fun m _ _ act => Decoder.run_decode_lift _ b act, ?_, fun f hf => ⟨?_, fun hlen => ?_⟩⟩
  · have hspec := (Decoder.ofPolicy p).result_spec b
    cases hresult : (Decoder.ofPolicy p).result b with
    | ok used =>
      rw [hresult] at hspec
      obtain ⟨hused, hframes, hhead⟩ := hspec
      refine ⟨hused, hframes, ?_⟩
      rcases Decoder.head_eq_incomplete_iff.mp hhead with hshort | ⟨hfault, hlt⟩
      · exact .inl hshort
      · obtain ⟨hmin, hmax⟩ := Decoder.sizeFault?_eq_none_iff.mp hfault
        exact .inr ⟨hmin, hmax, hlt⟩
    | error e =>
      rw [hresult] at hspec
      obtain ⟨rest, cause, hframes, hhead, rfl⟩ := hspec
      obtain ⟨hw, hfault⟩ := Decoder.head_eq_outOfBounds_iff.mp hhead
      refine ⟨rest, _, hframes, hw, rfl, ?_⟩
      rcases Decoder.sizeFault?_eq_some_iff.mp hfault with ⟨hlt, rfl⟩ | ⟨hmin, hlt, rfl⟩
      · exact .inl ⟨hlt, rfl⟩
      · exact .inr ⟨hmin, hlt, rfl⟩
  · have hwhole := Decoder.whole_of_mem_scan hf
    have hraised : max p.minFrame p.width.bytes ≤ f.length := hwhole.minFrame_le
    exact ⟨hwhole.width_eq, by omega, hwhole.le_maxFrame, by omega⟩
  · obtain ⟨tag, htag, hencode⟩ := Decoder.encode_of_whole (Decoder.whole_of_mem_scan hf) hlen
    refine ⟨tag, htag, fun buffer => ?_⟩
    rw [buffer.written_eq_encode, hencode]

/-- Under a policy whose bounds exclude each other no frame is acceptable, and what is wrong with a
length of three is that it is too short. -/
example : ((Decoder.ofPolicy { minFrame := 9, maxFrame := 2 }).result [3, 0, 1]) =
    .error (.protocol (.tooShort 3 9)) := by decide +kernel

end ChatLobby
