import ChatLobby.Cursor

/-!
# The receive cursor as a queue

Whatever is written to the free space of a cursor, it holds those bytes alone that were committed
and not consumed.  A bookkeeper (`Cursor.Account`) writes down what was committed and counts what
was consumed, and knows nothing of positions and storage; `Cursor.Account.step_balanced` is the
refinement for one operation, and `Cursor.fifo` what follows for all runs.

* `Cursor.capacity_compact`: when the storage grows, and how far.
* `Cursor.fifo`: the cursor is a queue of bytes.
-/

namespace ChatLobby

namespace Cursor

variable {c d : Cursor}

/-! ## How the storage grows

Making room goes through three stages: the front is used again if nothing is unread, then the unread
bytes are moved to the front, and only then is larger storage made.  The first two keep the
capacity, so that its growth is all in the last one. -/

theorem capacity_reclaim (c : Cursor) (minFree : Nat) :
    (c.reclaim minFree).capacity = c.capacity := by
  unfold reclaim
  split
  · rfl
  · split
    · exact Bytes.length_overwrite ..
    · rfl

/-- Where reclaiming does not make room enough, the unread bytes stand at the front. -/
theorem write_reclaim {minFree : Nat} (h : (c.reclaim minFree).free < minFree) :
    (c.reclaim minFree).write = c.readable := by
  have hle := c.read_le_write
  unfold reclaim at h ⊢
  split
  · next hdrained =>
    show 0 = c.write - c.read
    omega
  · next hunread =>
    rw [if_neg hunread] at h
    split
    · rfl
    · next hslide =>
      rw [if_neg hslide] at h
      -- nothing was consumed, since else there would have been something to slide over
      show c.write = c.write - c.read
      omega

/-- Storage that is moved to has the size that was asked for. -/
theorem capacity_moveTo {capacity : Nat} (h : c.readable ≤ capacity) :
    (c.moveTo capacity).capacity = capacity := by
  show (c.view ++ Bytes.zeros (capacity - c.readable)).length = capacity
  rw [List.length_append, length_view, Bytes.zeros, List.length_replicate]
  omega

/-- Moving the unread bytes loses none of them. -/
theorem readable_reclaim (c : Cursor) (minFree : Nat) :
    (c.reclaim minFree).readable = c.readable := by
  rw [← length_view, view_reclaim, length_view]

/-- **The storage grows just where the unread bytes and the free space do not fit it**, to what they
need or to double its size. -/
theorem capacity_compact (c : Cursor) (minFree : Nat) :
    (c.compact minFree).capacity =
      if c.capacity < c.readable + minFree then max (c.readable + minFree) (2 * c.capacity)
      else c.capacity := by
  have hcapacity := c.capacity_reclaim minFree
  have hreadable := c.readable_reclaim minFree
  have hwrite : (c.reclaim minFree).write ≤ (c.reclaim minFree).capacity :=
    (c.reclaim minFree).write_le_capacity
  have hread := (c.reclaim minFree).read_le_write
  rw [compact]
  split
  · next hfull =>
    have hfront := write_reclaim hfull
    rw [free] at hfull
    -- the unread bytes are all that is in front of the free space now
    rw [capacity_moveTo (by omega), if_pos (by omega), hfront, hcapacity]
  · next hroom =>
    rw [free] at hroom
    rw [readable] at hreadable
    rw [if_neg (by omega), hcapacity]

theorem capacity_le_compact (c : Cursor) (minFree : Nat) :
    c.capacity ≤ (c.compact minFree).capacity := by
  rw [capacity_compact]
  split <;> omega

/-! ## Operations

A fill stands for whatever a read of the socket may leave in the free space.  It is not the same as
a commit: bytes that are not committed may be written over by the next fill, and are never seen. -/

/-- What is done with a cursor. -/
inductive Op where
  /-- The free space is written to, from its start; it may be all of it. -/
  | fill (data : Bytes)
  /-- The first `n` bytes of the free space are recorded as received. -/
  | commit (n : Nat)
  /-- The first `n` unread bytes are recorded as used. -/
  | consume (n : Nat)
  /-- Room is made for at least `minFree` bytes. -/
  | compact (minFree : Nat)
  deriving DecidableEq, Repr

/-- Do an operation, and answer whether it could be done.  Nothing is changed if it could not. -/
def step (c : Cursor) : Op → Cursor × Except CursorError Unit
  | .fill data => (c.fill data, .ok ())
  | .commit n =>
    match c.commit n with
    | .ok d => (d, .ok ())
    | .error e => (c, .error e)
  | .consume n =>
    match c.consume n with
    | .ok d => (d, .ok ())
    | .error e => (c, .error e)
  | .compact minFree => (c.compact minFree, .ok ())

/-- Just as many bytes can be committed as there is free space. -/
theorem step_commit (c : Cursor) (n : Nat) :
    (n ≤ c.free → ∃ d, c.commit n = .ok d ∧ c.step (.commit n) = (d, .ok ())) ∧
      (c.free < n → c.step (.commit n) = (c, .error (.writeOverflow n c.free))) := by
  refine ⟨fun hle => ?_, fun hlt => ?_⟩
  · obtain ⟨d, hd⟩ := commit_of_le hle
    exact ⟨d, hd, by rw [step, hd]⟩
  · rw [step, commit, dif_neg (Nat.not_le.mpr hlt)]

/-- Just as many bytes can be consumed as are unread. -/
theorem step_consume (c : Cursor) (n : Nat) :
    (n ≤ c.readable → ∃ d, c.consume n = .ok d ∧ c.step (.consume n) = (d, .ok ())) ∧
      (c.readable < n → c.step (.consume n) = (c, .error (.readOverflow n c.readable))) := by
  refine ⟨fun hle => ?_, fun hlt => ?_⟩
  · obtain ⟨d, hd⟩ := consume_of_le hle
    exact ⟨d, hd, by rw [step, hd]⟩
  · rw [step, consume, dif_neg (Nat.not_le.mpr hlt)]

/-! ## The books

The bookkeeper is the specification: a list of bytes that only grows and a number that only grows.
It looks at the cursor when bytes are committed, to write them down, and otherwise only at whether
an operation could be done. -/

/-- A cursor with the books on it. -/
structure Account where
  /-- The cursor. -/
  cursor : Cursor
  /-- The bytes that were committed, oldest first. -/
  committed : Bytes := []
  /-- How many bytes were consumed. -/
  consumed : Nat := 0

namespace Account

/-- Do an operation, and write down what was committed or consumed if it could be done. -/
def step (a : Account) (op : Op) : Account :=
  let (c, answer) := a.cursor.step op
  match op, answer with
  | .commit n, .ok () =>
    { cursor := c, committed := a.committed ++ a.cursor.room.take n, consumed := a.consumed }
  | .consume n, .ok () =>
    { cursor := c, committed := a.committed, consumed := a.consumed + n }
  | _, _ => { a with cursor := c }

/-- Do one operation after the other. -/
def run (a : Account) (ops : List Op) : Account := ops.foldl step a

/-- The unread bytes are those that were committed, without those that were consumed. -/
structure Balanced (a : Account) : Prop where
  consumed_le : a.consumed ≤ a.committed.length
  view_eq : a.cursor.view = a.committed.drop a.consumed

variable {a : Account}

/-- How many bytes are unread, told by the books. -/
theorem Balanced.readable_eq (h : a.Balanced) :
    a.cursor.readable = a.committed.length - a.consumed := by
  rw [← length_view, h.view_eq, List.length_drop]

/-- **An operation keeps the books balanced.** -/
theorem step_balanced (h : a.Balanced) (op : Op) : (a.step op).Balanced := by
  have hle := h.consumed_le
  cases op with
  | fill data => exact ⟨hle, (view_fill a.cursor data).trans h.view_eq⟩
  | compact minFree => exact ⟨hle, (view_compact a.cursor minFree).trans h.view_eq⟩
  | commit n =>
    obtain ⟨hdone, hrefused⟩ := a.cursor.step_commit n
    rcases Nat.lt_or_ge a.cursor.free n with hlt | hfits
    · rw [step, hrefused hlt]
      exact h
    · obtain ⟨d, hcommit, hstep⟩ := hdone hfits
      rw [step, hstep]
      refine ⟨?_, ?_⟩
      · show a.consumed ≤ (a.committed ++ a.cursor.room.take n).length
        rw [List.length_append]
        omega
      · show d.view = (a.committed ++ a.cursor.room.take n).drop a.consumed
        rw [view_commit hcommit, h.view_eq, List.drop_append_of_le_length hle]
  | consume n =>
    have hreadable := h.readable_eq
    obtain ⟨hdone, hrefused⟩ := a.cursor.step_consume n
    rcases Nat.lt_or_ge a.cursor.readable n with hlt | hfits
    · rw [step, hrefused hlt]
      exact h
    · obtain ⟨d, hconsume, hstep⟩ := hdone hfits
      rw [step, hstep]
      refine ⟨?_, ?_⟩
      · show a.consumed + n ≤ a.committed.length
        omega
      · show d.view = a.committed.drop (a.consumed + n)
        rw [view_consume hconsume, h.view_eq, List.drop_drop]

/-- And so do all operations of a run. -/
theorem run_balanced (h : a.Balanced) (ops : List Op) : (a.run ops).Balanced := by
  induction ops generalizing a with
  | nil => exact h
  | cons op ops ih => exact ih (step_balanced h op)

/-- What is filled in and then committed is what goes into the books. -/
theorem committed_fill (a : Account) {data : Bytes} {n : Nat} (hdata : data.length ≤ a.cursor.free)
    (hn : n ≤ data.length) :
    ((a.step (.fill data)).step (.commit n)).committed = a.committed ++ data.take n := by
  have hfree : n ≤ (a.cursor.fill data).free := by
    rw [free_fill]
    omega
  obtain ⟨d, -, hstep⟩ := ((a.cursor.fill data).step_commit n).1 hfree
  have hfilled : (a.step (.fill data)).cursor = a.cursor.fill data := rfl
  have hfront : (a.cursor.fill data).room.take n = data.take n := calc
    _ = ((a.cursor.fill data).room.take data.length).take n := by
      rw [List.take_take, Nat.min_eq_left hn]
    _ = data.take n := by rw [take_room_fill hdata]
  rw [step, hfilled, hstep]
  exact congrArg (a.committed ++ ·) hfront

end Account

/-- **The cursor is a queue of bytes.**  Its unread bytes are those that were committed, in order,
without those that were consumed, and what is committed are the first bytes of the free space.  To
commit or to consume fails just where there are not so many bytes, and then changes nothing; to make
room never changes the unread bytes, and grows the storage only where it must. -/
theorem fifo (capacity : Nat) (ops : List Op) :
    let a := Account.run { cursor := ofCapacity capacity } ops
    let c := a.cursor
    (c.read ≤ c.write ∧ c.write ≤ c.capacity) ∧
    (a.consumed ≤ a.committed.length ∧ c.view = a.committed.drop a.consumed) ∧
    (∀ n, (n ≤ c.free → ∃ d, c.commit n = .ok d ∧ c.step (.commit n) = (d, .ok ())) ∧
      (c.free < n → c.step (.commit n) = (c, .error (.writeOverflow n c.free)))) ∧
    (∀ n, (n ≤ c.readable → ∃ d, c.consume n = .ok d ∧ c.step (.consume n) = (d, .ok ())) ∧
      (c.readable < n → c.step (.consume n) = (c, .error (.readOverflow n c.readable)))) ∧
    (∀ (data : Bytes) (n : Nat), data.length ≤ c.free → n ≤ data.length →
      ((a.step (.fill data)).step (.commit n)).committed = a.committed ++ data.take n) ∧
    ∀ minFree, (c.compact minFree).view = c.view ∧ minFree ≤ (c.compact minFree).free ∧
      c.capacity ≤ (c.compact minFree).capacity ∧
      (c.compact minFree).capacity =
        if c.capacity < c.readable + minFree then max (c.readable + minFree) (2 * c.capacity)
        else c.capacity := by
  intro a c
  have hstart : ({ cursor := ofCapacity capacity } : Account).Balanced :=
    ⟨Nat.le_refl _, view_ofCapacity capacity⟩
  have hbalanced : a.Balanced := Account.run_balanced hstart ops
  refine ⟨⟨c.read_le_write, c.write_le_capacity⟩, ⟨hbalanced.consumed_le, hbalanced.view_eq⟩,
    c.step_commit, c.step_consume, fun data n hdata hn => a.committed_fill hdata hn,
    fun minFree => ?_⟩
  exact ⟨c.view_compact minFree, c.le_free_compact minFree, c.capacity_le_compact minFree,
    c.capacity_compact minFree⟩

end Cursor

end ChatLobby
