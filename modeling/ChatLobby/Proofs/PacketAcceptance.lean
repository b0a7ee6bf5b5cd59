import ChatLobby.Proofs.FrameSoundness
import ChatLobby.Proofs.PacketRoundTrip

/-!
# Which packets the server accepts

Bytes that no client of ours wrote may reach the server in a frame.  `ClientPacket.Written` says,
without reading anything, which bytes are the fields of a packet: a text is a number, in any form
of at most ten bytes, and as many bytes that are the text in UTF-8.  What the server makes of a
frame is settled by that (`ClientPacket.acceptance`).

* `Payload.takeText_eq_ok_iff`: a text is read exactly from what is one.
* `ClientPacket.ofTagged_written`, `ClientPacket.exists_written`: fields that are there are found.
* `Varint.Form.length_encode_le`: no form of a number is shorter than the one that is written.
-/

namespace ChatLobby

/-! ## Numbers

The length of a text comes in groups of seven bits.  The reader is lenient: it takes a number with
groups of zero at its end, as long as there are at most ten bytes.  So a number has several forms,
and which one a client has chosen is lost when it is read. -/

namespace Varint

/-- `Form b n`: the bytes `b` are the number `n`, in groups of seven bits, the low group first.
Every byte but the last has its high bit set, and the last groups may be zero. -/
inductive Form : Bytes → Nat → Prop
  | last {b : UInt8} : b.toNat < 128 → Form [b] b.toNat
  | more {b : UInt8} {rest : Bytes} {n : Nat} : 128 ≤ b.toNat → Form rest n →
      Form (b :: rest) (b.toNat - 128 + 128 * n)

variable {bits fuel n : Nat} {b form rest : Bytes}

/-- A form of a number is read as that number, with enough fuel for its bytes. -/
theorem Form.decodeGroups (h : Form form n) (hfuel : form.length ≤ fuel) (rest : Bytes) :
    decodeGroups fuel (form ++ rest) = .ok (n, rest) := by
  induction h generalizing fuel with
  | @last b hb =>
    cases fuel with
    | zero => cases hfuel
    | succ fuel => exact if_pos hb
  | @more b form n hb _ ih =>
    cases fuel with
    | zero => cases hfuel
    | succ fuel =>
      have hinner := ih (Nat.le_of_succ_le_succ hfuel)
      rw [List.cons_append, Varint.decodeGroups, if_neg (Nat.not_lt.mpr hb), hinner]
      rfl

/-- What was read as a number was a form of it. -/
theorem exists_form (h : decodeGroups fuel b = .ok (n, rest)) :
    ∃ form, b = form ++ rest ∧ Form form n ∧ form.length ≤ fuel := by
  induction fuel generalizing b n with
  | zero => cases h
  | succ fuel ih =>
    cases b with
    | nil => cases h
    | cons b bs =>
      rw [decodeGroups] at h
      split at h
      · next hb =>
        cases h
        exact ⟨[b], rfl, .last hb, by simp⟩
      · next hb =>
        cases hinner : decodeGroups fuel bs with
        | error cause =>
          rw [hinner] at h
          cases h
        | ok found =>
          rw [hinner] at h
          cases h
          obtain ⟨form, rfl, hform, hlen⟩ := ih hinner
          exact ⟨b :: form, rfl, .more (Nat.le_of_not_lt hb) hform, Nat.succ_le_succ hlen⟩

/-- **A number is read exactly from a form of it** that is not too long. -/
theorem decode_eq_ok_iff : decode bits b = .ok (n, rest) ↔
    ∃ form, b = form ++ rest ∧ Form form n ∧ form.length ≤ maxBytes bits ∧ n < 1 <<< bits := by
  constructor
  · intro h
    rw [decode] at h
    split at h
    · next hgroups =>
      split at h
      · next hlt =>
        cases h
        obtain ⟨form, hb, hform, hlen⟩ := exists_form hgroups
        exact ⟨form, hb, hform, hlen, hlt⟩
      · cases h
    · cases h
  · rintro ⟨form, rfl, hform, hlen, hlt⟩
    rw [decode, hform.decodeGroups hlen]
    exact if_pos hlt

/-- No form is shorter than the one that is written. -/
theorem Form.length_encode_le (h : Form form n) : (encode n).length ≤ form.length := by
  induction h with
  | last hb =>
    rw [encode, if_pos hb]
    simp
  | @more b form n hb hform ih =>
    rw [encode]
    split
    · simp
    · have hlow : (b.toNat - 128 + 128 * n) / 128 = n := by
        have := b.toNat_lt
        omega
      rw [hlow]
      exact Nat.succ_le_succ ih

end Varint

/-! ## Texts

There are three ways for a text to be refused: its length is no number, fewer bytes follow than the
number says, or they are not UTF-8.  None of them is possible where the bytes are a text, and where
they are not, one of them happens. -/

namespace Payload

/-- `TextForm b s`: the bytes `b` are a text field with the text `s`. -/
def TextForm (b : Bytes) (s : String) : Prop :=
  ∃ count, b = count ++ Bytes.ofString s ∧ Varint.Form count s.utf8ByteSize ∧ count.length ≤ 10 ∧
    s.utf8ByteSize < 2 ^ 64

variable {b rest : Bytes} {s : String}

/-- Bytes are UTF-8 of at most one text, and that gives the bytes again. -/
theorem toString?_eq_some_iff : Bytes.toString? b = some s ↔ b = Bytes.ofString s := by
  constructor
  · intro h
    rw [Bytes.toString?, String.fromUTF8?] at h
    split at h
    · cases h
      rfl
    · cases h
  · rintro rfl
    exact toString?_ofString s

/-- Lengths have at most ten bytes and less than sixty-four bits. -/
theorem takeNumber_eq_ok_iff {n : Nat} : takeNumber 64 b = .ok (n, rest) ↔
    ∃ form, b = form ++ rest ∧ Varint.Form form n ∧ form.length ≤ 10 ∧ n < 2 ^ 64 := by
  have hdecode : takeNumber 64 b = .ok (n, rest) ↔ Varint.decode 64 b = .ok (n, rest) := by
    rw [takeNumber]
    cases Varint.decode 64 b <;> simp [Except.mapError]
  rw [hdecode]
  exact Varint.decode_eq_ok_iff

/-- **A text is read exactly from what is one.** -/
theorem takeText_eq_ok_iff : takeText b = .ok (s, rest) ↔
    ∃ form, b = form ++ rest ∧ TextForm form s := by
  constructor
  · intro h
    rw [takeText] at h
    cases hnumber : takeNumber 64 b with
    | error cause =>
      rw [hnumber] at h
      cases h
    | ok number =>
      obtain ⟨n, behind⟩ := number
      obtain ⟨count, rfl, hcount, hlen, hlt⟩ := takeNumber_eq_ok_iff.mp hnumber
      rw [hnumber] at h
      dsimp only at h
      split at h
      · next hle =>
        split at h
        · next found hfound =>
          cases h
          -- the text is as long as the number says
          have htaken := toString?_eq_some_iff.mp hfound
          have hsize : s.utf8ByteSize = n := by
            rw [← length_ofString, ← htaken, List.length_take]
            exact Nat.min_eq_left (Bytes.hasAtLeast_iff.mp hle)
          subst hsize
          refine ⟨count ++ Bytes.ofString s, ?_, count, rfl, hcount, hlen, hlt⟩
          rw [← htaken, List.append_assoc, List.take_append_drop]
        · cases h
      · cases h
  · rintro ⟨form, rfl, count, rfl, hcount, hlen, hlt⟩
    have hnumber := takeNumber_eq_ok_iff.mpr
      ⟨count, List.append_assoc count (Bytes.ofString s) rest, hcount, hlen, hlt⟩
    have hsize := length_ofString s
    rw [takeText, hnumber]
    dsimp only
    rw [if_pos (Bytes.hasAtLeast_iff.mpr (by simp [hsize])), ← hsize, List.take_left,
      List.drop_left, toString?_ofString]

/-- The server writes a text in its shortest form. -/
theorem TextForm.length_text_le (h : TextForm b s) : (text s).length ≤ b.length := by
  obtain ⟨count, rfl, hcount, -, -⟩ := h
  rw [text, List.length_append, List.length_append]
  exact Nat.add_le_add_right hcount.length_encode_le _

end Payload

/-! ## Packets

Fields stand at the front of a payload, one after the other, and what follows them is not looked at.
A tag says which fields are wanted, so that there are four cases: the two tags with fields, the one
without, and all others. -/

namespace ClientPacket

/-- `packet.Written b`: the bytes `b` are the fields of the packet. -/
def Written : ClientPacket → Bytes → Prop
  | enter room name, b =>
    ∃ first second, b = first ++ second ∧ Payload.TextForm first room ∧ Payload.TextForm second name
  | leave, b => b = []
  | chat text, b => Payload.TextForm b text

variable {packet : ClientPacket} {front rest b : Bytes} {f : Frame}

/-- Fields that are there are found, whatever follows them, and then judged. -/
theorem ofTagged_written (h : packet.Written front) (rest : Bytes) :
    ofTagged packet.tag (front ++ rest) = packet.checked := by
  cases packet with
  | enter room name =>
    obtain ⟨first, second, rfl, hroom, hname⟩ := h
    rw [List.append_assoc]
    exact ofTagged_enter (Payload.takeText_eq_ok_iff.mpr ⟨first, rfl, hroom⟩)
      (Payload.takeText_eq_ok_iff.mpr ⟨second, rfl, hname⟩)
  | leave => rfl
  | chat text => exact ofTagged_chat (Payload.takeText_eq_ok_iff.mpr ⟨front, rfl, h⟩)

/-- What is written of a packet is no longer than any fields of it. -/
theorem Written.length_payload_le (h : packet.Written front) :
    packet.payload.length ≤ front.length := by
  cases packet with
  | enter room name =>
    obtain ⟨first, second, rfl, hroom, hname⟩ := h
    rw [payload, List.length_append, List.length_append]
    exact Nat.add_le_add hroom.length_text_le hname.length_text_le
  | leave => exact Nat.zero_le _
  | chat text => exact Payload.TextForm.length_text_le h

/-- Fields are there, or the payload is refused. -/
theorem exists_written {tag : UInt16} (htag : tag = 1 ∨ tag = 3) (payload : Bytes) :
    (∃ packet : ClientPacket,
        packet.tag = tag ∧ ∃ front, front <+: payload ∧ packet.Written front) ∨
      ∃ cause, ofTagged tag payload = .error (.payload cause) := by
  -- the reads are done one after the other, and the first one that fails is the cause
  rcases htag with rfl | rfl
  · cases hroom : Payload.takeText payload with
    | error cause =>
      refine .inr ⟨cause, ?_⟩
      show ((Payload.takeText payload).mapError _ >>= _) = _
      rw [hroom]
      rfl
    | ok read =>
      obtain ⟨room, behind⟩ := read
      obtain ⟨first, rfl, hfirst⟩ := Payload.takeText_eq_ok_iff.mp hroom
      cases hname : Payload.takeText behind with
      | error cause =>
        refine .inr ⟨cause, ?_⟩
        show ((Payload.takeText (first ++ behind)).mapError _ >>= _) = _
        rw [hroom]
        show ((Payload.takeText behind).mapError _ >>= _) = _
        rw [hname]
        rfl
      | ok read =>
        obtain ⟨name, rest⟩ := read
        obtain ⟨second, rfl, hsecond⟩ := Payload.takeText_eq_ok_iff.mp hname
        exact .inl ⟨enter room name, rfl, first ++ second, ⟨rest, by rw [List.append_assoc]⟩,
          first, second, rfl, hfirst, hsecond⟩
  · cases htext : Payload.takeText payload with
    | error cause =>
      refine .inr ⟨cause, ?_⟩
      show ((Payload.takeText payload).mapError _ >>= _) = _
      rw [htext]
      rfl
    | ok read =>
      obtain ⟨text, rest⟩ := read
      obtain ⟨form, rfl, hform⟩ := Payload.takeText_eq_ok_iff.mp htext
      exact .inl ⟨chat text, rfl, form, ⟨rest, rfl⟩, hform⟩

/-- A tag that no packet of a client has is refused, whatever its payload is. -/
theorem ofTagged_unknown {tag : UInt16} (h₁ : tag ≠ 1) (h₂ : tag ≠ 2) (h₃ : tag ≠ 3)
    (payload : Bytes) : ofTagged tag payload = .error (.unknownTag tag) := by
  unfold ofTagged
  split
  · next h => exact absurd (UInt16.toNat_inj.mp h) h₁
  · next h => exact absurd (UInt16.toNat_inj.mp h) h₂
  · next h => exact absurd (UInt16.toNat_inj.mp h) h₃
  · rfl

/-- A packet keeps its limits if each of its fields does. -/
theorem valid_iff :
    packet.Valid ↔ ∀ field ∈ packet.fields, Packet.FitsField field.2.1 field.2.2 := by
  cases packet <;> simp [fields, Valid]

/-- A packet passes if all its fields keep their limits. -/
theorem checked_eq_ok_iff {packet' : ClientPacket} :
    packet.checked = .ok packet' ↔ packet' = packet ∧ packet.Valid := by
  rw [checked, valid_iff]
  split
  · next name value max hbroken =>
    constructor
    · rintro ⟨⟩
    · rintro ⟨-, hvalid⟩
      have hfits := hvalid _ (List.mem_of_find?_eq_some hbroken)
      have hnot := List.find?_some hbroken
      simp [hfits] at hnot
  · next hnone =>
    have hvalid : ∀ field ∈ packet.fields, Packet.FitsField field.2.1 field.2.2 := by
      rintro ⟨name, value, max⟩ hmem
      simpa using List.find?_eq_none.mp hnone _ hmem
    constructor
    · rintro ⟨⟩
      exact ⟨rfl, hvalid⟩
    · rintro ⟨rfl, -⟩
      rfl

/-- A packet within its limits fits a payload: the limits of the fields are far below that of the
whole. -/
theorem Valid.length_payload_le (h : packet.Valid) :
    packet.payload.length ≤ Packet.maxPayload := by
  cases packet with
  | enter room name =>
    obtain ⟨⟨-, hroom⟩, -, hname⟩ := h
    rw [Packet.maxNameLength] at hroom hname
    have hfirst := Payload.length_text_le (s := room) (k := 1) (by omega) (by decide)
    have hsecond := Payload.length_text_le (s := name) (k := 1) (by omega) (by decide)
    rw [payload, List.length_append, Packet.maxPayload]
    omega
  | leave => exact Nat.zero_le _
  | chat text =>
    obtain ⟨-, htext⟩ := h
    rw [Packet.maxTextLength] at htext
    have hline := Payload.length_text_le (s := text) (k := 2) (by omega) (by decide)
    rw [payload, Packet.maxPayload]
    omega

/-- A packet within its limits can be written in frames of the usual size. -/
theorem Valid.exists_encode (h : packet.Valid) : ∃ b, packet.encode {} = .ok b := by
  have hlen := h.length_payload_le
  rw [Packet.maxPayload] at hlen
  have hfits : FramePolicy.headerLength {} + packet.payload.length ≤ 65536 := by
    show 4 + packet.payload.length ≤ 65536
    omega
  obtain ⟨b, hb⟩ : ∃ b, FramePolicy.encode {} packet.tag packet.payload = .ok b :=
    FramePolicy.exists_encode_iff.mpr ⟨hfits, Packet.fits_of_le_maxPayload hlen⟩
  exact ⟨b, Packet.encodeFrame_eq_ok_iff.mpr ⟨hlen, hb⟩⟩

theorem ofFrame_of_tag {tag : UInt16} (htag : f.tag? = some tag) :
    ofFrame f = ofTagged tag f.payload := by
  rw [ofFrame, htag]

/-- A frame without room for a tag has none. -/
theorem ofFrame_of_short (h : f.length < f.width.bytes + tagLength) :
    ofFrame f = .error (.frame (.missingTag f.length)) := by
  have hnone : f.tag? = none := by
    unfold Frame.tag?
    split
    · next low high rest hdrop =>
      have hlen := congrArg List.length hdrop
      rw [List.length_drop] at hlen
      simp only [Frame.length, tagLength, List.length_cons] at h hlen
      omega
    · rfl
  rw [ofFrame, hnone]

/-- A frame with the fields of a packet at its front is that packet, or its first fault. -/
theorem ofFrame_written (htag : f.tag? = some packet.tag) (hfront : front <+: f.payload)
    (h : packet.Written front) : ofFrame f = packet.checked := by
  obtain ⟨rest, hrest⟩ := hfront
  rw [ofFrame_of_tag htag, ← hrest]
  exact ofTagged_written h rest

/-- A packet is accepted exactly if its fields are there and keep their limits. -/
theorem ofFrame_eq_ok_iff : ofFrame f = .ok packet ↔ f.tag? = some packet.tag ∧
    (∃ front, front <+: f.payload ∧ packet.Written front) ∧ packet.Valid := by
  constructor
  · intro h
    cases htag : f.tag? with
    | none =>
      rw [ofFrame, htag] at h
      cases h
    | some tag =>
      rw [ofFrame_of_tag htag] at h
      by_cases hleave : tag = 2
      · subst hleave
        cases h
        exact ⟨rfl, ⟨[], List.nil_prefix, rfl⟩, trivial⟩
      by_cases hfields : tag = 1 ∨ tag = 3
      · rcases exists_written hfields f.payload with
          ⟨packet', rfl, front, ⟨rest, hrest⟩, hwritten⟩ | ⟨cause, hcause⟩
        · rw [← hrest, ofTagged_written hwritten] at h
          obtain ⟨rfl, hvalid⟩ := checked_eq_ok_iff.mp h
          exact ⟨rfl, ⟨front, ⟨rest, hrest⟩, hwritten⟩, hvalid⟩
        · rw [hcause] at h
          cases h
      · rw [not_or] at hfields
        rw [ofTagged_unknown hfields.1 hleave hfields.2] at h
        cases h
  · rintro ⟨htag, ⟨front, hfront, hwritten⟩, hvalid⟩
    rw [ofFrame_written htag hfront hwritten]
    exact checked_eq_ok_iff.mpr ⟨rfl, hvalid⟩

/-- **What the server makes of a frame**, whatever bytes are in it.  It wants a tag.  A packet is
accepted exactly if the payload begins with its fields, and these keep their limits; what follows
them does not matter.  If the fields are there, the first one out of its limits is reported; if they
are not, the payload is refused, and so are tags that no client's packet has.  An accepted packet,
written again, is accepted again, and its payload has not become longer. -/
theorem acceptance (f : Frame) :
    (f.length < f.width.bytes + tagLength → ofFrame f = .error (.frame (.missingTag f.length))) ∧
    (f.width.bytes + tagLength ≤ f.length → ∃ tag, f.tag? = some tag ∧
      (tag = 2 → ofFrame f = .ok .leave) ∧
      (∀ (packet : ClientPacket) (front : Bytes), packet.tag = tag → front <+: f.payload →
        packet.Written front → ofFrame f = packet.checked) ∧
      (tag = 1 ∨ tag = 3 →
        (∀ (packet : ClientPacket) (front : Bytes), packet.tag = tag → front <+: f.payload →
          ¬ packet.Written front) →
        ∃ cause, ofFrame f = .error (.payload cause)) ∧
      (tag ≠ 1 → tag ≠ 2 → tag ≠ 3 → ofFrame f = .error (.unknownTag tag))) ∧
    (∀ packet, ofFrame f = .ok packet ↔ f.tag? = some packet.tag ∧
      (∃ front, front <+: f.payload ∧ packet.Written front) ∧ packet.Valid) ∧
    ∀ packet front, ofFrame f = .ok packet → front <+: f.payload → packet.Written front →
      ∃ b, packet.encode {} = .ok b ∧ ofFrame (FramePolicy.frame {} b) = .ok packet ∧
        (FramePolicy.frame {} b).payload.length ≤ front.length := by
  refine ⟨ofFrame_of_short, ?_, fun packet => ofFrame_eq_ok_iff, ?_⟩
  · intro hlen
    obtain ⟨tag, htag, -⟩ := Decoder.exists_tag? hlen
    refine ⟨tag, htag, ?_, ?_, ?_, ?_⟩
    · rintro rfl
      rw [ofFrame_of_tag htag]
      rfl
    · rintro packet front rfl hfront hwritten
      exact ofFrame_written htag hfront hwritten
    · intro hfields hnone
      rw [ofFrame_of_tag htag]
      refine (exists_written hfields f.payload).resolve_left ?_
      rintro ⟨packet, hpacket, front, hfront, hwritten⟩
      exact hnone packet front hpacket hfront hwritten
    · intro h₁ h₂ h₃
      rw [ofFrame_of_tag htag]
      exact ofTagged_unknown h₁ h₂ h₃ _
  · intro packet front h hfront hwritten
    obtain ⟨-, -, hvalid⟩ := ofFrame_eq_ok_iff.mp h
    obtain ⟨b, hb⟩ := hvalid.exists_encode
    obtain ⟨-, hencode⟩ := Packet.encodeFrame_eq_ok_iff.mp hb
    have hpayload := FramePolicy.payload_frame hencode
    refine ⟨b, hb, ?_, ?_⟩
    · rw [ofFrame_of_tag (FramePolicy.tag?_frame hencode), hpayload,
        ofTagged_payload packet hvalid.length_payload_le]
      exact checked_eq_ok_iff.mpr ⟨rfl, hvalid⟩
    · rw [hpayload]
      exact hwritten.length_payload_le

-- A length in two bytes where one would do, and a byte behind the text; then half a letter.
example :
    ofFrame { width := .two, bytes := [9, 0, 3, 0, 0x82, 0x00, 0xC3, 0xA9, 7] } = .ok (.chat "é") ∧
      ofFrame { width := .two, bytes := [6, 0, 3, 0, 1, 0xC3] } = .error (.payload .badUtf8) := by
  decide +kernel

end ClientPacket

end ChatLobby
