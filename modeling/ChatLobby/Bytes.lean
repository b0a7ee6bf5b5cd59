/-!
# Bytes

Everything that travels over a connection is a list of bytes.  This module holds the operations
that the layers above share: text as UTF-8, unsigned numbers with the least significant byte
first, and writing over a part of a region.

* `ofLittleEndian_littleEndian`: a number that fits its width is read back as written.
* `length_overwrite`: writing into a region never changes how long the region is.
-/

namespace ChatLobby

/-- A run of bytes, the first one first. -/
abbrev Bytes := List UInt8

namespace Bytes

/-! ### Text -/

/-- The bytes of a text in UTF-8. -/
def ofString (s : String) : Bytes := s.toByteArray.data.toList

/-- The text with these UTF-8 bytes; `none` if they are not valid UTF-8. -/
def toString? (b : Bytes) : Option String := String.fromUTF8? ⟨b.toArray⟩

/-! ### Numbers -/

/-- The low `width` bytes of `n`, least significant byte first. -/
def littleEndian : (width n : Nat) → Bytes
  | 0, _ => []
  | width + 1, n => UInt8.ofNat n :: littleEndian width (n / 256)

/-- The number whose bytes these are, least significant byte first. -/
def ofLittleEndian : Bytes → Nat
  | [] => 0
  | b :: rest => b.toNat + 256 * ofLittleEndian rest

@[simp] theorem length_littleEndian (width n : Nat) : (littleEndian width n).length = width := by
  induction width generalizing n with
  | zero => rfl
  | succ width ih => simp [littleEndian, ih]

/-- A number of at most `8 * width` bits survives being written in `width` bytes and read back. -/
theorem ofLittleEndian_littleEndian {width n : Nat} (h : n < 1 <<< (8 * width)) :
    ofLittleEndian (littleEndian width n) = n := by
  induction width generalizing n with
  | zero => simp_all [littleEndian, ofLittleEndian]
  | succ width ih =>
    have hdiv : n / 256 < 1 <<< (8 * width) := by
      rw [Nat.mul_succ, Nat.shiftLeft_add] at h
      omega
    simp only [littleEndian, ofLittleEndian, ih hdiv, UInt8.toNat_ofNat']
    omega

/-- The number that bytes are has at most eight bits for each of them. -/
theorem ofLittleEndian_lt (b : Bytes) : ofLittleEndian b < 1 <<< (8 * b.length) := by
  induction b with
  | nil => simp [ofLittleEndian]
  | cons x rest ih =>
    have hx := x.toNat_lt
    rw [ofLittleEndian, List.length_cons, Nat.mul_succ, Nat.shiftLeft_add]
    omega

/-! ### Regions -/

/-- A region of `n` zero bytes. -/
def zeros (n : Nat) : Bytes := List.replicate n 0

/-- Write `data` over `region` beginning at `offset`; what does not fit the region is cut off. -/
def overwrite (region : Bytes) (offset : Nat) (data : Bytes) : Bytes :=
  region.take offset ++ data.take (region.length - offset) ++ region.drop (offset + data.length)

@[simp] theorem length_overwrite (region : Bytes) (offset : Nat) (data : Bytes) :
    (overwrite region offset data).length = region.length := by
  simp only [overwrite, List.length_append, List.length_take, List.length_drop]
  omega

/-- What lies before the offset stays. -/
theorem take_overwrite {region : Bytes} {offset : Nat} (data : Bytes)
    (h : offset ≤ region.length) :
    (overwrite region offset data).take offset = region.take offset := by
  have hlen : (region.take offset).length = offset := by rw [List.length_take]; omega
  rw [overwrite, List.append_assoc, List.take_append_of_le_length (by omega),
    List.take_of_length_le (by omega)]

/-- What was written stands at the offset, if it fits. -/
theorem take_drop_overwrite {region : Bytes} {offset : Nat} (data : Bytes)
    (h : offset + data.length ≤ region.length) :
    ((overwrite region offset data).drop offset).take data.length = data := by
  have hlen : (region.take offset).length = offset := by rw [List.length_take]; omega
  have hfit : data.take (region.length - offset) = data := List.take_of_length_le (by omega)
  rw [overwrite, List.append_assoc, List.drop_left' hlen, hfit, List.take_left]

/-- Whether there are `n` bytes or more, decided without walking past the `n`-th. -/
def hasAtLeast (b : Bytes) (n : Nat) : Bool := n == 0 || !(b.drop (n - 1)).isEmpty

theorem hasAtLeast_iff {b : Bytes} {n : Nat} : b.hasAtLeast n = true ↔ n ≤ b.length := by
  cases n with
  | zero => simp [hasAtLeast]
  | succ n =>
    have hd : (b.drop n).isEmpty = true ↔ b.length ≤ n := by
      rw [List.isEmpty_iff, List.drop_eq_nil_iff]
    grind [hasAtLeast]

end Bytes

end ChatLobby
