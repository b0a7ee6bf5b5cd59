import ChatLobby.Bytes

/-!
# Variable-length numbers

A number is written in groups of seven bits, the low group first; every byte but the last has its
high bit set.  Reading accepts forms that are longer than needed, up to a given number of bytes.

* `decode_encode`: what is written is read back, whatever follows it.
-/

namespace ChatLobby.Varint

/-- Why a number could not be read. -/
inductive Error where
  /-- The bytes ended inside the number. -/
  | unexpectedEnd
  /-- The number has too many bytes or is too large. -/
  | badVarint
  deriving DecidableEq, Repr

/-- The shortest form of `n`. -/
def encode (n : Nat) : Bytes :=
  if n < 128 then [UInt8.ofNat n]
  else UInt8.ofNat (n % 128 + 128) :: encode (n / 128)
termination_by n

/-- Read groups of seven bits up to and including the first byte without the high bit, at most
`fuel` bytes, and answer the number with the bytes behind it. -/
def decodeGroups : (fuel : Nat) → Bytes → Except Error (Nat × Bytes)
  | 0, _ => .error .badVarint
  | _ + 1, [] => .error .unexpectedEnd
  | fuel + 1, b :: rest =>
    if b.toNat < 128 then .ok (b.toNat, rest)
    else (decodeGroups fuel rest).map fun (high, rest) => (b.toNat - 128 + 128 * high, rest)

/-- How many bytes a number of `bits` bits may take. -/
def maxBytes (bits : Nat) : Nat := (bits + 6) / 7

/-- Read a number of at most `bits` bits. -/
def decode (bits : Nat) (b : Bytes) : Except Error (Nat × Bytes) :=
  match decodeGroups (maxBytes bits) b with
  | .ok (n, rest) => if n < 1 <<< bits then .ok (n, rest) else .error .badVarint
  | .error e => .error e

theorem decodeGroups_encode {fuel n : Nat} (h : n < 1 <<< (7 * fuel)) (hfuel : 0 < fuel)
    (rest : Bytes) : decodeGroups fuel (encode n ++ rest) = .ok (n, rest) := by
  induction fuel generalizing n with
  | zero => omega
  | succ fuel ih =>
    rw [encode]
    split
    · next hn =>
      have : (UInt8.ofNat n).toNat = n := by simp; omega
      simp [decodeGroups, this, hn]
    · next hn =>
      have hb : (UInt8.ofNat (n % 128 + 128)).toNat = n % 128 + 128 := by simp; omega
      have hdiv : n / 128 < 1 <<< (7 * fuel) := by
        rw [Nat.mul_succ, Nat.shiftLeft_add] at h
        omega
      have hpos : 0 < fuel := by
        rcases Nat.eq_zero_or_pos fuel with rfl | hpos
        · simp at hdiv; omega
        · exact hpos
      simp only [List.cons_append, decodeGroups, hb, ih hdiv hpos, Except.map]
      rw [if_neg (by omega)]
      congr 2
      omega

/-- A number of at most `bits` bits is read back as written. -/
theorem decode_encode {bits n : Nat} (hbits : 0 < bits) (h : n < 1 <<< bits) (rest : Bytes) :
    decode bits (encode n ++ rest) = .ok (n, rest) := by
  have hle : 1 <<< bits ≤ 1 <<< (7 * maxBytes bits) := by
    rw [Nat.one_shiftLeft, Nat.one_shiftLeft]
    exact Nat.pow_le_pow_right (by decide) (by simp only [maxBytes]; omega)
  have hpos : 0 < maxBytes bits := by simp only [maxBytes]; omega
  rw [decode, decodeGroups_encode (Nat.lt_of_lt_of_le h hle) hpos]
  simp [h]

end ChatLobby.Varint
