import ChatLobby.Bytes

/-!
# The send buffer

Outgoing packets are written into a large chunk and then cut off from its front as views.  A view
only names a place in a chunk, so handing a packet to many connections copies nothing; its bytes
are looked up with `read`.  When a chunk runs short it is retired, views and all, and a fresh
zeroed one takes its place.

Writing goes through `reserve` (the region begins where the last view ended and is the whole rest
of the chunk), `write` and `close`.

Main statements: `close` cuts off exactly the first bytes of the region (`read_close`), and
neither writing nor reserving changes the bytes of an earlier view (`read_write`,
`read_reserve`).
-/

namespace ChatLobby

/-- Why a region could not be closed. -/
inductive SendBufferError where
  /-- There is no region to close. -/
  | notOpen
  /-- More bytes were used than the region held. -/
  | overflow (used reserved : Nat)
  deriving DecidableEq, Repr

/-- The name of the kind of error. -/
def SendBufferError.kind : SendBufferError → String
  | notOpen => "NotOpen"
  | overflow .. => "Overflow"

/-- The text of the error. -/
def SendBufferError.message : SendBufferError → String
  | notOpen => "close called without an open region"
  | overflow used reserved => s!"closed {used} bytes but only {reserved} were reserved"

/-- A run of bytes that was cut off from a chunk. -/
structure View where
  /-- Which chunk, counted from the buffer's first. -/
  chunk : Nat
  /-- Where in the chunk the bytes begin. -/
  start : Nat
  /-- How many bytes there are. -/
  length : Nat
  deriving DecidableEq, Repr

/-- Chunks for outgoing packets: those retired, and the current one with the place up to which it
was handed out. -/
structure SendBuffer where
  /-- The size of a fresh chunk. -/
  chunkSize : Nat
  /-- Chunks that were full or too small, oldest first. -/
  retired : List Bytes := []
  /-- The bytes of the current chunk. -/
  storage : Bytes
  /-- How much of the current chunk was handed out in views. -/
  taken : Nat := 0
  /-- The length of the open region, if there is one. -/
  reserved : Option Nat := none

namespace SendBuffer

/-- The chunk size of a process that was not told another one. -/
def defaultChunkSize : Nat := 64 * 1024

/-- The chunk size in force when `size` is asked for: a chunk has at least one byte. -/
def effectiveChunkSize (size : Nat) : Nat := max size 1

/-- A buffer whose first chunk is fresh. -/
def ofChunkSize (size : Nat) : SendBuffer where
  chunkSize := effectiveChunkSize size
  storage := Bytes.zeros (effectiveChunkSize size)

/-- Let later chunks have another size. -/
def resize (b : SendBuffer) (size : Nat) : SendBuffer :=
  { b with chunkSize := effectiveChunkSize size }

/-- How many bytes of the current chunk were not handed out. -/
def remaining (b : SendBuffer) : Nat := b.storage.length - b.taken

/-- The bytes of the current chunk that were not handed out. -/
def region (b : SendBuffer) : Bytes := b.storage.drop b.taken

/-- All chunks there ever were, oldest first. -/
def chunks (b : SendBuffer) : List Bytes := b.retired ++ [b.storage]

/-- The bytes of a view. -/
def read (b : SendBuffer) (v : View) : Bytes :=
  ((b.chunks[v.chunk]?.getD []).drop v.start).take v.length

/-- Retire the current chunk and take a fresh one of at least `size` bytes. -/
def rotate (b : SendBuffer) (size : Nat) : SendBuffer :=
  { b with retired := b.chunks, storage := Bytes.zeros (max b.chunkSize size), taken := 0 }

/-- Open a region of at least `size` bytes: the rest of the current chunk if that is enough, else
a fresh chunk. -/
def reserve (b : SendBuffer) (size : Nat) : SendBuffer :=
  let b := if b.remaining < size then b.rotate size else b
  { b with reserved := some b.remaining }

/-- Write into the region from `offset` on, as much as fits. -/
def write (b : SendBuffer) (offset : Nat) (data : Bytes) : SendBuffer :=
  { b with storage := b.storage.take b.taken ++ b.region.overwrite offset data }

/-- Cut the first `used` bytes of the region off as a view.  The region is closed either way. -/
def close (b : SendBuffer) (used : Nat) : SendBuffer × Except SendBufferError View :=
  match b.reserved with
  | none => (b, .error .notOpen)
  | some reserved =>
    if reserved < used then ({ b with reserved := none }, .error (.overflow used reserved))
    else
      ({ b with taken := b.taken + used, reserved := none },
        .ok { chunk := b.retired.length, start := b.taken, length := used })

/-! ### What is kept -/

/-- The current chunk was not handed out past its end, and an open region is the whole rest of
it. -/
structure WellFormed (b : SendBuffer) : Prop where
  taken_le : b.taken ≤ b.storage.length
  reserved_eq : ∀ n, b.reserved = some n → n = b.remaining

/-- The view lies in what the buffer handed out. -/
def Valid (b : SendBuffer) (v : View) : Prop :=
  v.chunk < b.retired.length ∨ v.chunk = b.retired.length ∧ v.start + v.length ≤ b.taken

theorem wellFormed_ofChunkSize (size : Nat) : (ofChunkSize size).WellFormed :=
  ⟨Nat.zero_le _, by simp [ofChunkSize]⟩

@[simp] theorem length_region (b : SendBuffer) : b.region.length = b.remaining := by
  simp [region, remaining]

@[simp] theorem remaining_write (b : SendBuffer) (offset : Nat) (data : Bytes) :
    (b.write offset data).remaining = b.remaining := by
  simp only [write, remaining, List.length_append, Bytes.length_overwrite, length_region,
    List.length_take]
  omega

theorem region_write {b : SendBuffer} (h : b.WellFormed) (offset : Nat) (data : Bytes) :
    (b.write offset data).region = b.region.overwrite offset data := by
  show (b.storage.take b.taken ++ b.region.overwrite offset data).drop b.taken = _
  have hlen : (b.storage.take b.taken).length = b.taken := by simp [h.taken_le]
  exact List.drop_left' hlen

/-- The first `used` bytes of the region are what the new view reads. -/
theorem read_close {b c : SendBuffer} {used : Nat} {v : View} (h : b.close used = (c, .ok v)) :
    c.read v = b.region.take used := by
  unfold close at h
  split at h
  · cases h
  · split at h
    · cases h
    · cases h
      simp [read, chunks, region]

/-- A view reads from the part of its chunk that was handed out. -/
theorem read_of_valid {b : SendBuffer} {v : View} (hv : b.Valid v) :
    b.read v = (((b.retired ++ [b.storage.take b.taken])[v.chunk]?.getD []).drop v.start).take
      v.length := by
  rcases hv with hv | ⟨hv, hle⟩
  · simp [read, chunks, List.getElem?_append_left hv]
  · simp only [read, chunks, hv, List.getElem?_concat_length, Option.getD_some]
    rw [List.drop_take, List.take_take, Nat.min_eq_left (by omega)]

/-- Writing into the region leaves every earlier view alone. -/
theorem read_write {b : SendBuffer} (h : b.WellFormed) (offset : Nat) (data : Bytes) {v : View}
    (hv : b.Valid v) : (b.write offset data).read v = b.read v := by
  have hlen : (b.storage.take b.taken).length = b.taken := by simp [h.taken_le]
  have htake : (b.write offset data).storage.take b.taken = b.storage.take b.taken := by
    show (b.storage.take b.taken ++ b.region.overwrite offset data).take b.taken = _
    exact List.take_left' hlen
  rw [read_of_valid hv, read_of_valid (b := b.write offset data) hv]
  show (((b.retired ++ [(b.write offset data).storage.take b.taken])[v.chunk]?.getD []).drop
    v.start).take v.length = _
  rw [htake]

/-- Opening a region leaves every earlier view alone, also when the chunk is retired. -/
theorem read_reserve (b : SendBuffer) (size : Nat) {v : View} (hv : b.Valid v) :
    (b.reserve size).read v = b.read v := by
  have hchunk : v.chunk < b.chunks.length := by
    rcases hv with hv | ⟨hv, _⟩ <;> simp [chunks] <;> omega
  unfold reserve
  split
  · show (((b.chunks ++ [_])[v.chunk]?.getD []).drop v.start).take v.length = b.read v
    rw [List.getElem?_append_left hchunk, read]
  · rfl

end SendBuffer

end ChatLobby
