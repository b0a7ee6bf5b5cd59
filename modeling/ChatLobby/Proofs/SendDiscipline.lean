import ChatLobby.Proofs.Reserving

/-!
# The discipline of the send buffer

A thread does no more with its buffer than a run of operations: what it does in one use follows what
it did in the uses before, the chunk size is taken over when a use begins, and to encode a frame is
to open a region, to write and, if nothing stands against it, to close.

* `SendBuffer.run_encodeOps`: the operations of which encoding a frame consists.
* `ThreadBuffer.run_current`: the buffer of a thread after any events, as one run of operations.
* `SendBuffer.discipline`: what is so after any operations, of a buffer and of a thread's.
-/

namespace ChatLobby

/-! ## Encoding as operations

A frame is written by four operations at most.  Which of them are done depends on what the payload
writer leaves and reports, and the writer may fail; then the region stays open and what was written
is left in it.  So encoding is nothing new to a buffer, and all that is said about runs holds for
it. -/

namespace SendBuffer

/-- What is done with the buffer to write a frame. -/
def encodeOps {ε : Type} (b : SendBuffer) (p : FramePolicy) (tag : UInt16) (maxPayload : Nat)
    (fill : PayloadWriter ε) : List Op :=
  let (body, report) := fill (b.payloadRegion p maxPayload)
  [.reserve (p.headerLength + maxPayload), .write p.headerLength (body.take maxPayload)] ++
    match report with
    | .error _ => []
    | .ok written =>
      match p.header tag maxPayload written with
      | .error _ => []
      | .ok header => [.write 0 header, .close (p.headerLength + written)]

/-- **To write a frame** is to do some operations, and the view of the frame is what they cut off.
-/
theorem run_encodeOps {ε : Type} (b : SendBuffer) (p : FramePolicy) (tag : UInt16)
    (maxPayload : Nat) (fill : PayloadWriter ε) (ofFrameError : FrameError → ε) :
    b.run (b.encodeOps p tag maxPayload fill) =
      ((b.encodeWith p tag maxPayload fill ofFrameError).1,
        (b.encodeWith p tag maxPayload fill ofFrameError).2.toOption.toList) := by
  unfold encodeOps encodeWith
  dsimp only
  rw [← payloadRegion]
  generalize fill (b.payloadRegion p maxPayload) = filled
  obtain ⟨body, _ | written⟩ := filled
  · rfl
  dsimp only
  cases p.header tag maxPayload written with
  | error cause => rfl
  | ok header =>
    -- the region that was opened is still open for both writes
    have hclose : ∀ w : SendBuffer × Except SendBufferError View,
        (w.1, w.2.toOption.toList ++ []) = (w.1,
          (w.2.mapError fun e => ofFrameError (.sendBuffer e)).toOption.toList) := by
      rintro ⟨c, _ | v⟩ <;> rfl
    exact hclose ((((b.reserve (p.headerLength + maxPayload)).write p.headerLength
      (body.take maxPayload)).write 0 header).close (p.headerLength + written))

end SendBuffer

/-! ## What a thread does with its buffer

The chunk size belongs to the program and not to the buffer, and somebody may change it between two
uses.  A thread looks it up when a use begins.  So each use is a run that begins with `Op.resize`,
and `ThreadBuffer.ops` strings them together.  A use within another one has a buffer of its own, and
what it does there is not among them. -/

/-- What happens to the buffer of a thread and to the chunk size. -/
inductive ThreadBuffer.Event : Type 1 where
  /-- Some thread asks for another chunk size. -/
  | setChunkSize (size : Nat)
  /-- The thread uses its buffer as it likes. -/
  | use (ops : List SendBuffer.Op)
  /-- The thread writes a frame. -/
  | encodeWith {ε : Type} (p : FramePolicy) (tag : UInt16) (maxPayload : Nat)
      (fill : PayloadWriter ε) (ofFrameError : FrameError → ε)
  /-- There is a use inside another one, for which a fresh buffer is made. -/
  | inside (ops : List SendBuffer.Op)

namespace ThreadBuffer

open SendBuffer (Op)

/-- The thread after an event, and the views that were cut off from its buffer. -/
def step (t : ThreadBuffer) : Event → ThreadBuffer × List View
  | .setChunkSize size => (t.setChunkSize size, [])
  | .use ops => t.use (·.run ops)
  | .encodeWith p tag maxPayload fill ofFrameError =>
    let (t, result) := t.use (·.encodeWith p tag maxPayload fill ofFrameError)
    (t, result.toOption.toList)
  | .inside _ => (t, [])

/-- The thread after some events, and the views that were cut off from its buffer, in order. -/
def run (t : ThreadBuffer) : List Event → ThreadBuffer × List View
  | [] => (t, [])
  | event :: events =>
    let (t, cut) := t.step event
    let (t, views) := t.run events
    (t, cut ++ views)

/-- What an event does with the buffer. -/
def opsOf (t : ThreadBuffer) : Event → List Op
  | .setChunkSize _ | .inside _ => []
  | .use ops => .resize t.chunkSize :: ops
  | .encodeWith p tag maxPayload fill _ =>
    .resize t.chunkSize :: t.current.encodeOps p tag maxPayload fill

/-- What is done with the buffer, from one event to the other. -/
def ops (t : ThreadBuffer) : List Event → List Op
  | [] => []
  | event :: events => t.opsOf event ++ (t.step event).1.ops events

/-- The chunk size in force when the buffer is first used, or at the end if it is not. -/
def Event.firstSize (size : Nat) : List Event → Nat
  | .setChunkSize size' :: events => firstSize size' events
  | .inside _ :: events => firstSize size events
  | .use _ :: _ | .encodeWith .. :: _ | [] => size

/-- The buffer, as it is made if it was not used before. -/
def base (t : ThreadBuffer) : SendBuffer := t.buffer.getD t.fresh

/-- `Reaches b ops after`: the thread has the buffer `b` with the operations done, and the views are
those that they cut off. -/
structure Reaches (b : SendBuffer) (ops : List Op) (after : ThreadBuffer × List View) : Prop where
  buffer_eq : after.1.buffer = some (b.run ops).1
  views_eq : after.2 = (b.run ops).2

variable {t : ThreadBuffer} {b : SendBuffer}

theorem base_of_some (h : t.buffer = some b) : t.base = b := by
  rw [base, h, Option.getD_some]

/-- The first use makes a buffer with chunks of the size in force. -/
theorem base_of_none (h : t.buffer = none) : t.base = .ofChunkSize t.chunkSize := by
  rw [base, h, Option.getD_none, fresh]

/-- A use does its operations on the buffer that there is, or on the one that is made for it. -/
theorem step_use (t : ThreadBuffer) (ops : List Op) :
    Reaches t.base (t.opsOf (.use ops)) (t.step (.use ops)) := ⟨rfl, rfl⟩

/-- Writing a frame does the operations of which it consists. -/
theorem step_encodeWith {ε : Type} (t : ThreadBuffer) (p : FramePolicy) (tag : UInt16)
    (maxPayload : Nat) (fill : PayloadWriter ε) (ofFrameError : FrameError → ε) :
    Reaches t.base (t.opsOf (.encodeWith p tag maxPayload fill ofFrameError))
      (t.step (.encodeWith p tag maxPayload fill ofFrameError)) := by
  have hops := t.current.run_encodeOps p tag maxPayload fill ofFrameError
  have hrun : t.base.run (t.opsOf (.encodeWith p tag maxPayload fill ofFrameError)) =
      t.current.run (t.current.encodeOps p tag maxPayload fill) := rfl
  refine ⟨?_, ?_⟩
  · rw [hrun, hops]
    rfl
  · rw [hrun, hops]
    rfl

/-- A thread that has a buffer goes on with it. -/
theorem step_reaches (hbuffer : t.buffer = some b) (event : Event) :
    Reaches b (t.opsOf event) (t.step event) := by
  rw [← base_of_some hbuffer]
  cases event with
  | setChunkSize | inside => exact ⟨hbuffer.trans (congrArg some (base_of_some hbuffer).symm), rfl⟩
  | use ops => exact step_use t ops
  | encodeWith p tag maxPayload fill ofFrameError =>
    exact step_encodeWith t p tag maxPayload fill ofFrameError

/-- What is done in one event and in those after it is done one after the other. -/
theorem Reaches.cons {event : Event} {events : List Event}
    (h : Reaches b (t.opsOf event) (t.step event))
    (hlater : Reaches (b.run (t.opsOf event)).1 ((t.step event).1.ops events)
      ((t.step event).1.run events)) :
    Reaches b (t.ops (event :: events)) (t.run (event :: events)) := by
  rw [ops]
  refine ⟨?_, ?_⟩
  · rw [SendBuffer.run_append]
    exact hlater.buffer_eq
  · rw [SendBuffer.run_append, ← h.views_eq, ← hlater.views_eq]
    rfl

/-- Nothing takes the buffer of a thread away. -/
theorem run_reaches (hbuffer : t.buffer = some b) (events : List Event) :
    Reaches b (t.ops events) (t.run events) := by
  induction events generalizing t b with
  | nil => exact ⟨hbuffer, rfl⟩
  | cons event events ih =>
    have hfirst := step_reaches hbuffer event
    exact hfirst.cons (ih hfirst.buffer_eq)

/-- **All uses together are one run of operations** on the buffer that the first of them made. -/
theorem run_base (hbuffer : t.buffer = none) (events : List Event) :
    let b := SendBuffer.ofChunkSize (Event.firstSize t.chunkSize events)
    (t.run events).1.base = (b.run (t.ops events)).1 ∧
      (t.run events).2 = (b.run (t.ops events)).2 := by
  have hbase := base_of_none hbuffer
  induction events generalizing t with
  | nil => exact ⟨hbase, rfl⟩
  | cons event events ih =>
    -- the first event that is a use makes the buffer
    have hused (h : Reaches t.base (t.opsOf event) (t.step event)) :
        (t.run (event :: events)).1.base = (t.base.run (t.ops (event :: events))).1 ∧
          (t.run (event :: events)).2 = (t.base.run (t.ops (event :: events))).2 :=
      have hall := h.cons (run_reaches h.buffer_eq events)
      ⟨base_of_some hall.buffer_eq, hall.views_eq⟩
    rw [hbase] at hused
    cases event with
    | setChunkSize size => exact ih (t := t.setChunkSize size) hbuffer (base_of_none hbuffer)
    | inside ops => exact ih hbuffer hbase
    | use ops => exact hused (hbase ▸ step_use t ops)
    | encodeWith p tag maxPayload fill ofFrameError =>
      exact hused (hbase ▸ step_encodeWith t p tag maxPayload fill ofFrameError)

end ThreadBuffer

/-! ## The discipline

Each field below is a promise to whoever uses the buffer, and speaks of any further operation.  The
three laws of closing are proved from `Closes`, by its three outcomes. -/

namespace SendBuffer

/-- `b.Disciplined size region? views`: what a buffer keeps to of which `views` were cut off, with
`region?` open and `size` the chunk size that was asked for last. -/
structure Disciplined (b : SendBuffer) (size : Nat) (region? : Option Bytes) (views : List View) :
    Prop where
  /-- A region has at least the bytes that were asked for. -/
  le_reserve : ∀ hint, hint ≤ (b.reserve hint).region.length
  /-- The chunk stays if there is room in it. -/
  reserve_of_room : ∀ hint, hint ≤ b.remaining →
    (b.reserve hint).chunks = b.chunks ∧ (b.reserve hint).region = b.region
  /-- A chunk of zeros is begun if there is not. -/
  reserve_of_shortage : ∀ hint, b.remaining < hint →
    let fresh := Bytes.zeros (max (effectiveChunkSize size) hint)
    (b.reserve hint).chunks = b.chunks ++ [fresh] ∧ (b.reserve hint).region = fresh
  /-- Just the bytes of the region that was opened last can be cut off. -/
  close_iff : ∀ used, (∃ v, (b.close used).2 = .ok v) ↔ ∃ region ∈ region?, used ≤ region.length
  /-- Those cut off are the first ones of the region, and that many fewer remain. -/
  close_cuts : ∀ used v, (b.close used).2 = .ok v → ∃ region ∈ region?,
    (b.close used).1.read v = region.take used ∧ v.length = used ∧
      (b.close used).1.remaining + used = b.remaining ∧ (b.close used).1.chunks = b.chunks
  /-- Nothing changes if they cannot be cut off. -/
  close_fails : ∀ used e, (b.close used).2 = .error e →
    e = region?.elim .notOpen (fun region => .overflow used region.length) ∧
      (b.close used).1.remaining = b.remaining ∧ (b.close used).1.chunks = b.chunks
  /-- Either way no region is open then. -/
  close_shuts : ∀ used again, ((b.close used).1.close again).2 = .error .notOpen
  /-- Opening a region apart, nothing changes how many chunks there are and how long they are. -/
  lengths_kept : ∀ op, (∀ hint, op ≠ .reserve hint) →
    (b.step op).1.chunks.map List.length = b.chunks.map List.length
  /-- The bytes cut off from the chunk and those that remain are all of it. -/
  cutOff_add_remaining : b.cutOff views + b.remaining = b.storage.length
  /-- A view reads the same ever after. -/
  views_kept : ∀ v ∈ views, ∀ later, (b.run later).1.read v = b.read v

/-- Where a region is open, it is the rest of the current chunk. -/
theorem openRegion?_of_some {b : SendBuffer} {n : Nat} (hopen : b.reserved = some n) :
    b.openRegion? = some b.region := by
  rw [openRegion?, hopen, Option.map_some]

/-- A well-formed buffer of which the views account for its chunk keeps the discipline. -/
theorem Disciplined.of_wellFormed {b : SendBuffer} {size : Nat} {views : List View}
    (h : b.WellFormed) (hsize : b.chunkSize = effectiveChunkSize size) (hviews : b.Accounts views)
    (hvalid : ∀ v ∈ views, b.Valid v) : b.Disciplined size b.openRegion? views where
  le_reserve hint := by
    rw [length_region]
    exact b.le_remaining_reserve hint
  reserve_of_room hint hroom := by
    rw [reserve_eq, if_pos hroom]
    exact ⟨rfl, rfl⟩
  reserve_of_shortage hint hshort := by
    rw [reserve_eq, if_neg (Nat.not_le.mpr hshort), hsize]
    exact ⟨rfl, rfl⟩
  close_iff used := by
    have hcloses := b.closes_close used
    generalize b.close used = after at hcloses
    cases hcloses with
    | notOpen hopen => simp [openRegion?_of_none hopen]
    | overflow hopen hlt =>
      rw [h.reserved_eq _ hopen] at hlt
      simpa [openRegion?_of_some hopen] using hlt
    | cut hopen hle =>
      rw [h.reserved_eq _ hopen] at hle
      simpa [openRegion?_of_some hopen] using hle
  close_cuts used v hv := by
    have hcloses := b.closes_close used
    have hread (c : SendBuffer) (hclose : b.close used = (c, .ok v)) := read_close hclose
    generalize b.close used = after at hcloses hv hread
    cases hcloses with
    | notOpen | overflow => cases hv
    | cut hopen hle =>
      cases hv
      have hrest := h.reserved_eq _ hopen
      refine ⟨b.region, openRegion?_of_some hopen, hread _ rfl, rfl, ?_, rfl⟩
      show b.storage.length - (b.taken + used) + used = b.remaining
      rw [remaining] at hrest ⊢
      omega
  close_fails used e he := by
    have hcloses := b.closes_close used
    generalize b.close used = after at hcloses he
    cases hcloses with
    | notOpen hopen =>
      cases he
      rw [openRegion?_of_none hopen]
      exact ⟨rfl, rfl, rfl⟩
    | overflow hopen =>
      cases he
      have hrest := h.reserved_eq _ hopen
      rw [openRegion?_of_some hopen, Option.elim_some, length_region, ← hrest]
      exact ⟨rfl, hrest.symm, rfl⟩
    | cut => cases he
  close_shuts used again := by
    rw [close_of_notOpen (b.closes_close used).reserved_eq]
  lengths_kept op hop := length_chunks_step b hop
  cutOff_add_remaining := by
    have htaken := h.taken_le
    rw [hviews.cutOff_eq, remaining]
    omega
  views_kept v hv later := (run_keeps h later).read_eq v (hvalid v hv)

/-- What a run of operations on a fresh buffer leads to. -/
theorem disciplined_run (size : Nat) (ops : List Op) :
    ((ofChunkSize size).run ops).1.Disciplined (Op.lastSize size ops)
      ((ofChunkSize size).opened? none ops) ((ofChunkSize size).run ops).2 := by
  have hwell := wellFormed_ofChunkSize size
  have haccounts : (ofChunkSize size).Accounts [] := ⟨by rintro v ⟨⟩, rfl⟩
  have hopened : (ofChunkSize size).opened? none ops = ((ofChunkSize size).run ops).1.openRegion? :=
    opened?_eq hwell ops
  rw [hopened]
  exact .of_wellFormed (run_keeps hwell ops).wellFormed (chunkSize_run rfl ops)
    (accounts_run haccounts ops) fun v hv => valid_of_mem_run hwell hv

end SendBuffer

namespace ThreadBuffer

open SendBuffer (Op)

variable {t : ThreadBuffer}

/-- The buffer that a thread uses after some events, while it does `now`. -/
theorem run_current (size : Nat) (events : List Event) (now : List Op) :
    let t : ThreadBuffer := { chunkSize := size }
    let b := SendBuffer.ofChunkSize (Event.firstSize size events)
    let done := t.ops events ++ .resize (t.run events).1.chunkSize :: now
    ((t.run events).1.current.run now).1 = (b.run done).1 ∧
      (t.run events).2 ++ ((t.run events).1.current.run now).2 = (b.run done).2 := by
  intro t b done
  obtain ⟨hbase, hviews⟩ := run_base (t := t) rfl events
  have hcurrent : (t.run events).1.current =
      ((b.run (t.ops events)).1.resize (t.run events).1.chunkSize) :=
    congrArg (·.resize (t.run events).1.chunkSize) hbase
  rw [SendBuffer.run_append, hcurrent, hviews]
  exact ⟨rfl, rfl⟩

theorem views_of_none (hbuffer : t.buffer = none) {events : List Event}
    (hunused : (t.run events).1.buffer = none) : (t.run events).2 = [] := by
  induction events generalizing t with
  | nil => rfl
  | cons event events ih =>
    have hused (h : Reaches t.base (t.opsOf event) (t.step event)) :
        (t.run (event :: events)).2 = [] := by
      have hall := h.cons (run_reaches h.buffer_eq events)
      rw [hall.buffer_eq] at hunused
      cases hunused
    cases event with
    | setChunkSize | inside => exact ih hbuffer hunused
    | use ops => exact hused (step_use t ops)
    | encodeWith p tag maxPayload fill ofFrameError =>
      exact hused (step_encodeWith t p tag maxPayload fill ofFrameError)

theorem valid_run (hbuffer : t.buffer = none) (events : List Event) :
    (t.run events).1.base.WellFormed ∧ ∀ v ∈ (t.run events).2, (t.run events).1.base.Valid v := by
  obtain ⟨hbase, hviews⟩ := run_base hbuffer events
  have hwell := SendBuffer.wellFormed_ofChunkSize (Event.firstSize t.chunkSize events)
  rw [hbase, hviews]
  exact ⟨(SendBuffer.run_keeps hwell _).wellFormed, fun v => SendBuffer.valid_of_mem_run hwell⟩

/-- Whatever happens later, the views of a thread read the same. -/
theorem read_run (hbuffer : t.buffer = none) (events later : List Event) {v : View}
    (hv : v ∈ (t.run events).2) :
    ((t.run events).1.run later).1.current.read v = (t.run events).1.current.read v := by
  obtain ⟨hwell, hvalid⟩ := valid_run hbuffer events
  cases hused : (t.run events).1.buffer with
  | none =>
    rw [views_of_none hbuffer hused] at hv
    cases hv
  | some b =>
    have hgiven := hvalid v hv
    rw [base_of_some hused] at hwell hgiven
    show (base _).read v = (base _).read v
    rw [base_of_some (run_reaches hused later).buffer_eq, base_of_some hused]
    exact (SendBuffer.run_keeps hwell _).read_eq v hgiven

/-- The chunk size at the beginning of a use does away with what was asked for before. -/
theorem lastSize_append_resize (first size : Nat) (ops now : List Op) :
    Op.lastSize first (ops ++ .resize size :: now) = Op.lastSize size now := by
  induction ops generalizing first with
  | nil => rfl
  | cons op ops ih => cases op <;> exact ih _

end ThreadBuffer

/-- **The send buffer keeps its discipline** in every run of operations.  So does the buffer of a
thread: the chunk size in force is taken over when a use begins, a region that one use leaves open
is open in the next, and the views of one use are kept by all others. -/
theorem SendBuffer.discipline (size : Nat) :
    (∀ ops : List Op,
      ((ofChunkSize size).run ops).1.Disciplined (Op.lastSize size ops)
        ((ofChunkSize size).opened? none ops) ((ofChunkSize size).run ops).2) ∧
    ∀ (events : List ThreadBuffer.Event) (now : List Op),
      let fresh : ThreadBuffer := { chunkSize := size }
      let (t, views) := fresh.run events
      let done := fresh.ops events ++ .resize t.chunkSize :: now
      (t.current.run now).1.Disciplined (Op.lastSize t.chunkSize now)
        ((ofChunkSize (ThreadBuffer.Event.firstSize size events)).opened? none done)
        (views ++ (t.current.run now).2) ∧
      ∀ v ∈ views, ∀ later, (t.run later).1.current.read v = t.current.read v := by
  refine ⟨disciplined_run size, fun events now => ⟨?_, ?_⟩⟩
  · obtain ⟨hbuffer, hviews⟩ := ThreadBuffer.run_current size events now
    have hsize := ThreadBuffer.lastSize_append_resize
      (ThreadBuffer.Event.firstSize size events)
      (({ chunkSize := size } : ThreadBuffer).run events).1.chunkSize
      (({ chunkSize := size } : ThreadBuffer).ops events) now
    rw [hbuffer, hviews, ← hsize]
    exact disciplined_run _ _
  · exact fun v hv later => ThreadBuffer.read_run rfl events later hv

end ChatLobby
