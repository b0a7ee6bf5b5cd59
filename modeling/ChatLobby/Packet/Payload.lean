import ChatLobby.Packet.Varint

/-!
# Packet payloads

A payload is its packet's fields one after the other: a text is its byte count and its bytes in
UTF-8, a count is a number of 32 bits.  What follows the last field is ignored.

* `takeText_text`, `takeCount_count`: a field that was written is read back.
-/

namespace ChatLobby

/-- Why a payload could not be read or written. -/
inductive PayloadError where
  /-- The payload ends inside a field. -/
  | unexpectedEnd
  /-- A number has too many bytes or is too large. -/
  | badVarint
  /-- A text is not valid UTF-8. -/
  | badUtf8
  /-- The payload does not fit the room it was given. -/
  | bufferFull
  deriving DecidableEq, Repr

/-- The text of the error. -/
def PayloadError.message : PayloadError → String
  | unexpectedEnd => "Hit the end of buffer, expected more data"
  | badVarint =>
    "Found a varint that didn't terminate. Is the usize too big for this platform?"
  | badUtf8 => "Tried to parse invalid utf-8"
  | bufferFull => "The serialize buffer is full"

/-- A number that could not be read makes the payload unreadable for the same reason. -/
def PayloadError.ofVarint : Varint.Error → PayloadError
  | .unexpectedEnd => .unexpectedEnd
  | .badVarint => .badVarint

namespace Payload

/-- A text field. -/
def text (s : String) : Bytes := Varint.encode s.utf8ByteSize ++ Bytes.ofString s

/-- A count field. -/
def count (n : UInt32) : Bytes := Varint.encode n.toNat

/-- Read a number of `bits` bits. -/
def takeNumber (bits : Nat) (b : Bytes) : Except PayloadError (Nat × Bytes) :=
  (Varint.decode bits b).mapError .ofVarint

/-- Read a text field. -/
def takeText (b : Bytes) : Except PayloadError (String × Bytes) :=
  match takeNumber 64 b with
  | .error e => .error e
  | .ok (length, rest) =>
    if rest.hasAtLeast length then
      match Bytes.toString? (rest.take length) with
      | some s => .ok (s, rest.drop length)
      | none => .error .badUtf8
    else .error .unexpectedEnd

/-- Read a count field. -/
def takeCount (b : Bytes) : Except PayloadError (UInt32 × Bytes) :=
  (takeNumber 32 b).map fun (n, rest) => (UInt32.ofNat n, rest)

theorem toString?_ofString (s : String) : (Bytes.ofString s).toString? = some s := by
  show String.fromUTF8? ⟨s.toByteArray.data.toList.toArray⟩ = some s
  rw [Array.toArray_toList]
  exact dif_pos s.isValidUTF8

theorem length_ofString (s : String) : (Bytes.ofString s).length = s.utf8ByteSize :=
  Array.length_toList

theorem takeNumber_encode {bits n : Nat} (hbits : 0 < bits) (h : n < 1 <<< bits) (rest : Bytes) :
    takeNumber bits (Varint.encode n ++ rest) = .ok (n, rest) := by
  rw [takeNumber, Varint.decode_encode hbits h]
  rfl

/-- A text field is read back, whatever follows it. -/
theorem takeText_text {s : String} (h : s.utf8ByteSize < UInt64.size) (rest : Bytes) :
    takeText (text s ++ rest) = .ok (s, rest) := by
  have hlen := length_ofString s
  have hsize : s.utf8ByteSize < 1 <<< 64 := h
  simp only [takeText, text, List.append_assoc, takeNumber_encode (by decide) hsize]
  rw [if_pos (Bytes.hasAtLeast_iff.2 (by simp [hlen])), ← hlen, List.take_left, List.drop_left,
    toString?_ofString]

/-- A count field is read back, whatever follows it. -/
theorem takeCount_count (n : UInt32) (rest : Bytes) :
    takeCount (count n ++ rest) = .ok (n, rest) := by
  have h : n.toNat < 1 <<< 32 := n.toNat_lt
  simp [takeCount, count, takeNumber_encode (by decide) h, Except.map]

end Payload

end ChatLobby
