import ChatLobby.Bytes

/-!
# The receive cursor

A connection receives into one block of storage with a read and a write position:

```
0           read            write              capacity
+-------------+---------------+-------------------+
|  consumed   |    unread     |    free space     |
+-------------+---------------+-------------------+
```

The socket fills the free space and `commit`s what it filled; the protocol looks at the unread
bytes (`view`) and `consume`s what it used.  `compact` runs before every receive and provides
free space, by sliding the unread bytes to the front or by growing the storage.

Main statements: `view` is a queue of bytes.  `commit` appends to it the first bytes of the free
space (`view_commit`), which are those that were filled in (`take_room_fill`), `consume` drops from
its front (`view_consume`), and `compact` leaves it alone (`view_compact`) while leaving room for
the next receive (`le_free_compact`).
-/

namespace ChatLobby

/-- Why a cursor could not be moved. -/
inductive CursorError where
  /-- More bytes were committed than there was free space for. -/
  | writeOverflow (requested free : Nat)
  /-- More bytes were consumed than were unread. -/
  | readOverflow (requested unread : Nat)
  deriving DecidableEq, Repr

/-- The name of the kind of error. -/
def CursorError.kind : CursorError → String
  | writeOverflow .. => "WriteOverflow"
  | readOverflow .. => "ReadOverflow"

/-- The text of the error. -/
def CursorError.message : CursorError → String
  | writeOverflow requested free => s!"write of {requested} bytes exceeds free space {free}"
  | readOverflow requested unread => s!"read of {requested} bytes exceeds unread size {unread}"

/-- Storage for received bytes, with the positions up to which it was read and written. -/
structure Cursor where
  /-- The bytes in storage, stale ones and zeros included. -/
  storage : Bytes
  /-- Bytes before this position were consumed. -/
  read : Nat
  /-- Bytes from this position on are free space. -/
  write : Nat
  read_le_write : read ≤ write := by omega
  write_le_capacity : write ≤ storage.length := by omega

namespace Cursor

/-- An empty cursor over `capacity` bytes of zeroed storage. -/
def ofCapacity (capacity : Nat) : Cursor where
  storage := Bytes.zeros capacity
  read := 0
  write := 0

/-- How many bytes the storage holds altogether. -/
def capacity (c : Cursor) : Nat := c.storage.length

/-- How many bytes are unread. -/
def readable (c : Cursor) : Nat := c.write - c.read

/-- How many bytes can be received before the next `compact`. -/
def free (c : Cursor) : Nat := c.capacity - c.write

/-- The unread bytes, oldest first. -/
def view (c : Cursor) : Bytes := (c.storage.take c.write).drop c.read

/-- The free space, with whatever bytes lie there. -/
def room (c : Cursor) : Bytes := c.storage.drop c.write

/-- Put `data` at the start of the free space, as much of it as fits.  The positions stay. -/
def fill (c : Cursor) (data : Bytes) : Cursor where
  storage := c.storage.overwrite c.write data
  read := c.read
  write := c.write
  read_le_write := c.read_le_write
  write_le_capacity := by simpa using c.write_le_capacity

/-- Record that the first `n` bytes of the free space were received. -/
def commit (c : Cursor) (n : Nat) : Except CursorError Cursor :=
  if h : n ≤ c.free then
    .ok { c with
      write := c.write + n
      read_le_write := Nat.le_add_right_of_le c.read_le_write
      write_le_capacity := by have := c.write_le_capacity; simp only [free, capacity] at h; omega }
  else .error (.writeOverflow n c.free)

/-- Record that the first `n` unread bytes were used. -/
def consume (c : Cursor) (n : Nat) : Except CursorError Cursor :=
  if h : n ≤ c.readable then
    .ok { c with
      read := c.read + n
      read_le_write := by have := c.read_le_write; simp only [readable] at h; omega
      write_le_capacity := c.write_le_capacity }
  else .error (.readOverflow n c.readable)

/-- Move the unread bytes to the start of the storage. -/
def slide (c : Cursor) : Cursor where
  storage := c.storage.overwrite 0 c.view
  read := 0
  write := c.readable
  read_le_write := Nat.zero_le _
  write_le_capacity := by
    have := c.write_le_capacity
    simp only [Bytes.length_overwrite, readable]
    omega

/-- Move the unread bytes to the start of fresh zeroed storage of the given capacity, or of the
smallest that holds them if that is larger. -/
def moveTo (c : Cursor) (capacity : Nat) : Cursor where
  storage := c.view ++ Bytes.zeros (capacity - c.readable)
  read := 0
  write := c.readable
  read_le_write := Nat.zero_le _
  write_le_capacity := by
    have := c.write_le_capacity
    simp only [List.length_append, view, readable, List.length_drop, List.length_take]
    omega

/-- Forget the consumed bytes: all of the storage is free space again. -/
def restart (c : Cursor) : Cursor where
  storage := c.storage
  read := 0
  write := 0
  read_le_write := Nat.le_refl _
  write_le_capacity := Nat.zero_le _

/-- Reclaim consumed space within the storage: a drained cursor starts over, and otherwise the
unread bytes slide to the front if fewer than `minFree` bytes are free. -/
def reclaim (c : Cursor) (minFree : Nat) : Cursor :=
  if c.read = c.write then c.restart
  else if c.free < minFree ∧ 0 < c.read then c.slide
  else c

/-- Make room for at least `minFree` bytes: reclaim consumed space, and if that is not enough
grow the storage, at least to double its size. -/
def compact (c : Cursor) (minFree : Nat) : Cursor :=
  let c := c.reclaim minFree
  if c.free < minFree then c.moveTo (max (c.write + minFree) (2 * c.capacity)) else c

/-! ### The cursor as a queue -/

@[simp] theorem length_view (c : Cursor) : c.view.length = c.readable := by
  have := c.write_le_capacity
  simp only [view, readable, List.length_drop, List.length_take]
  omega

@[simp] theorem view_ofCapacity (capacity : Nat) : (ofCapacity capacity).view = [] := by
  simp [view, ofCapacity]

theorem view_commit {c d : Cursor} {n : Nat} (h : c.commit n = .ok d) :
    d.view = c.view ++ c.room.take n := by
  simp only [commit] at h
  split at h
  · cases h
    have h₁ := c.read_le_write
    have h₂ := c.write_le_capacity
    simp only [view, room]
    rw [List.take_add, List.drop_append_of_le_length (by simp; omega)]
  · cases h

theorem view_consume {c d : Cursor} {n : Nat} (h : c.consume n = .ok d) :
    d.view = c.view.drop n := by
  simp only [consume] at h
  split at h
  · cases h
    simp [view]
  · cases h

theorem commit_of_le {c : Cursor} {n : Nat} (h : n ≤ c.free) : ∃ d, c.commit n = .ok d :=
  ⟨_, dif_pos h⟩

theorem consume_of_le {c : Cursor} {n : Nat} (h : n ≤ c.readable) : ∃ d, c.consume n = .ok d :=
  ⟨_, dif_pos h⟩

theorem le_of_consume {c d : Cursor} {n : Nat} (h : c.consume n = .ok d) : n ≤ c.readable := by
  unfold consume at h
  split at h
  · assumption
  · cases h

@[simp] theorem free_fill (c : Cursor) (data : Bytes) : (c.fill data).free = c.free := by
  simp [free, capacity, fill]

/-- Filling the free space does not touch the unread bytes. -/
@[simp] theorem view_fill (c : Cursor) (data : Bytes) : (c.fill data).view = c.view := by
  show ((c.storage.overwrite c.write data).take c.write).drop c.read = c.view
  rw [Bytes.take_overwrite data c.write_le_capacity]
  rfl

/-- The free space begins with what was filled in, if that fits. -/
theorem take_room_fill {c : Cursor} {data : Bytes} (h : data.length ≤ c.free) :
    (c.fill data).room.take data.length = data := by
  have hcap := c.write_le_capacity
  have hfit : c.write + data.length ≤ c.storage.length := by simp only [free, capacity] at h; omega
  exact Bytes.take_drop_overwrite data hfit

theorem view_restart {c : Cursor} (h : c.read = c.write) : c.restart.view = c.view := by
  simp [restart, view, h]

@[simp] theorem view_slide (c : Cursor) : c.slide.view = c.view := by
  have hlen := c.length_view
  have hcap := c.write_le_capacity
  have hle : c.view.length ≤ c.storage.length := by rw [hlen]; simp only [readable]; omega
  show ((c.storage.overwrite 0 c.view).take c.readable).drop 0 = c.view
  rw [← hlen, Bytes.overwrite, List.take_zero, List.nil_append, Nat.sub_zero,
    List.take_of_length_le hle, List.drop_zero, List.take_left]

@[simp] theorem view_moveTo (c : Cursor) (capacity : Nat) : (c.moveTo capacity).view = c.view := by
  show ((c.view ++ Bytes.zeros (capacity - c.readable)).take c.readable).drop 0 = c.view
  rw [← c.length_view, List.drop_zero, List.take_left]

theorem view_reclaim (c : Cursor) (minFree : Nat) : (c.reclaim minFree).view = c.view := by
  unfold reclaim
  split
  · next h => exact view_restart h
  · split <;> simp

/-- Making room does not touch the unread bytes. -/
theorem view_compact (c : Cursor) (minFree : Nat) : (c.compact minFree).view = c.view := by
  simp only [compact]
  split
  · rw [view_moveTo, view_reclaim]
  · exact view_reclaim c minFree

theorem le_free_moveTo {c : Cursor} {n capacity : Nat} (h : c.write + n ≤ capacity) :
    n ≤ (c.moveTo capacity).free := by
  have := c.length_view
  simp only [moveTo, free, Cursor.capacity, List.length_append, Bytes.zeros, List.length_replicate,
    readable] at *
  omega

/-- After `compact` there is the room that was asked for. -/
theorem le_free_compact (c : Cursor) (minFree : Nat) : minFree ≤ (c.compact minFree).free := by
  simp only [compact]
  split
  · exact le_free_moveTo (Nat.le_max_left _ _)
  · omega

end Cursor

end ChatLobby
