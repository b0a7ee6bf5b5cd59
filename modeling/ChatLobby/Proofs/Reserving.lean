import ChatLobby.Proofs.FrameRoundTrip
import ChatLobby.SendBuffer.PerThread

/-!
# What the send buffer keeps to

Whoever uses a send buffer opens regions, writes into the one that is open and closes it, in any
order and as often as it likes.  `SendBuffer.run` does such operations one after the other and
collects the views that are cut off.

What carries all runs is that one operation keeps every view that was cut off before
(`SendBuffer.step_keeps`), and that an open region is the whole rest of its chunk, which
`SendBuffer.WellFormed` says already.

* `SendBuffer.run_keeps`: views keep their bytes in every run of operations.
* `SendBuffer.opened?_eq`: the region that is open, told by the operations alone.
* `SendBuffer.accounts_run`: the views of a chunk are all that was handed out of it.
-/

namespace ChatLobby

/-! ## Operations

The operations are those of the interface, and they may come in any order: a region may be opened
twice, or closed with more than it has.  The buffer answers such things with errors or takes them as
they are, and a run does not stop there. -/

/-- What is done with a send buffer. -/
inductive SendBuffer.Op where
  /-- Another chunk size comes into force. -/
  | resize (size : Nat)
  /-- A region of at least `size` bytes is opened. -/
  | reserve (size : Nat)
  /-- Bytes are written into the region that is open. -/
  | write (offset : Nat) (data : Bytes)
  /-- The region is closed, and its first `used` bytes are cut off. -/
  | close (used : Nat)
  deriving DecidableEq, Repr

/-- The chunk size that is asked for last, if it was `size` at first. -/
def SendBuffer.Op.lastSize (size : Nat) : List Op → Nat
  | [] => size
  | op :: ops =>
    match op with
    | .resize size' => lastSize size' ops
    | _ => lastSize size ops

namespace SendBuffer

/-- Do one operation, and answer the view that it cut off, if any.  Nothing can be written where no
region is open. -/
def step (b : SendBuffer) : Op → SendBuffer × Option View
  | .resize size => (b.resize size, none)
  | .reserve size => (b.reserve size, none)
  | .write offset data => (if b.reserved.isSome then b.write offset data else b, none)
  | .close used => ((b.close used).1, (b.close used).2.toOption)

/-- Do one operation after the other, and answer the views that were cut off, in order. -/
def run (b : SendBuffer) : List Op → SendBuffer × List View
  | [] => (b, [])
  | op :: ops =>
    let (b, view) := b.step op
    let (b, views) := b.run ops
    (b, view.toList ++ views)

theorem run_append (b : SendBuffer) (ops more : List Op) :
    b.run (ops ++ more) =
      (((b.run ops).1.run more).1, (b.run ops).2 ++ ((b.run ops).1.run more).2) := by
  induction ops generalizing b with
  | nil => rfl
  | cons op ops ih =>
    simp only [List.cons_append, run, ih, List.append_assoc]

/-! ### What every operation keeps

A view is a place in a chunk.  It stays good because chunks are never written behind what was cut
off, nor thrown away when a fresh one is begun.  `Keeps` is a preorder, so that runs follow from
steps. -/

variable {b c d : SendBuffer} {v : View} {used : Nat}

/-- `b.Closes used after`: to close the region after `used` bytes leads to `after`. -/
inductive Closes (b : SendBuffer) (used : Nat) : SendBuffer × Except SendBufferError View → Prop where
  /-- No region is open. -/
  | notOpen (hopen : b.reserved = none) : Closes b used (b, .error .notOpen)
  /-- The region is shorter. -/
  | overflow {n : Nat} (hopen : b.reserved = some n) (hlt : n < used) :
    Closes b used ({ b with reserved := none }, .error (.overflow used n))
  /-- Its first bytes are cut off. -/
  | cut {n : Nat} (hopen : b.reserved = some n) (hle : used ≤ n) :
    Closes b used ({ b with taken := b.taken + used, reserved := none },
      .ok { chunk := b.retired.length, start := b.taken, length := used })

/-- Closing a region has three outcomes. -/
theorem closes_close (b : SendBuffer) (used : Nat) : b.Closes used (b.close used) := by
  rw [close]
  cases hopen : b.reserved with
  | none => exact .notOpen hopen
  | some n =>
    dsimp only
    split
    · next hlt => exact .overflow hopen hlt
    · next hle => exact .cut hopen (Nat.not_lt.mp hle)

/-- Whatever comes of it, no region is open after one was closed. -/
theorem Closes.reserved_eq {after : SendBuffer × Except SendBufferError View}
    (h : b.Closes used after) : after.1.reserved = none := by
  cases h with
  | notOpen hopen => exact hopen
  | overflow | cut => rfl

/-- Nothing happens where no region is open. -/
theorem close_of_notOpen (h : b.reserved = none) (used : Nat) :
    b.close used = (b, .error .notOpen) := by
  rw [close, h]

/-- `b.Keeps c`: the buffer `c` has handed out all views that `b` has, and they read the same. -/
structure Keeps (b c : SendBuffer) : Prop where
  wellFormed : c.WellFormed
  valid : ∀ v, b.Valid v → c.Valid v
  read_eq : ∀ v, b.Valid v → c.read v = b.read v

theorem Keeps.refl (h : b.WellFormed) : b.Keeps b where
  wellFormed := h
  valid _ hv := hv
  read_eq _ _ := rfl

theorem Keeps.trans (h : b.Keeps c) (h' : c.Keeps d) : b.Keeps d where
  wellFormed := h'.wellFormed
  valid v hv := h'.valid v (h.valid v hv)
  read_eq v hv := (h'.read_eq v (h.valid v hv)).trans (h.read_eq v hv)

/-- Another chunk size is for chunks to come. -/
theorem keeps_resize (h : b.WellFormed) (size : Nat) : b.Keeps (b.resize size) where
  wellFormed := ⟨h.taken_le, h.reserved_eq⟩
  valid _ hv := hv
  read_eq _ _ := rfl

/-- The region is the rest of the chunk if that is enough, and else a fresh chunk. -/
theorem reserve_eq (b : SendBuffer) (size : Nat) :
    b.reserve size =
      if size ≤ b.remaining then { b with reserved := some b.remaining }
      else
        { b with
          retired := b.chunks
          storage := Bytes.zeros (max b.chunkSize size)
          taken := 0
          reserved := some (max b.chunkSize size) } := by
  rw [reserve]
  by_cases hroom : size ≤ b.remaining
  · rw [if_pos hroom, if_neg (Nat.not_lt.mpr hroom)]
  · rw [if_neg hroom, if_pos (Nat.lt_of_not_le hroom)]
    have hfresh : (b.rotate size).remaining = max b.chunkSize size :=
      List.length_replicate
    rw [hfresh]
    rfl

/-- **A fresh chunk takes nothing away**: the one that was current is retired with its views. -/
theorem keeps_reserve (h : b.WellFormed) (size : Nat) : b.Keeps (b.reserve size) where
  wellFormed := by
    refine ⟨?_, fun n hn => ?_⟩
    · rw [reserve_eq]
      split
      · exact h.taken_le
      · exact Nat.zero_le _
    · rw [reserved_reserve] at hn
      exact (Option.some.inj hn).symm
  valid v hv := by
    rw [reserve_eq]
    split
    · exact hv
    · -- the chunk that was current is among the retired ones
      refine .inl ?_
      show v.chunk < (b.retired ++ [b.storage]).length
      rw [List.length_append, List.length_singleton]
      -- it was in an earlier chunk, or in the one that is retired now
      rcases hv with hlt | ⟨heq, -⟩
      · omega
      · omega
  read_eq _ hv := read_reserve b size hv

/-- What is written goes behind all views: the open region begins where the last of them ends. -/
theorem keeps_write (h : b.WellFormed) (offset : Nat) (data : Bytes) :
    b.Keeps (b.write offset data) where
  wellFormed := h.write offset data
  valid _ hv := hv
  read_eq _ hv := read_write h offset data hv

/-- The bytes of a view that is cut off are those of the region, and no other view has them. -/
theorem keeps_close (h : b.WellFormed) (used : Nat) : b.Keeps (b.close used).1 := by
  have hcloses := b.closes_close used
  generalize b.close used = after at hcloses
  cases hcloses with
  | notOpen => exact .refl h
  | overflow => exact ⟨⟨h.taken_le, by rintro _ ⟨⟩⟩, fun _ hv => hv, fun _ _ => rfl⟩
  | cut hopen hle =>
    have hrest := h.reserved_eq _ hopen
    have htaken := h.taken_le
    rw [remaining] at hrest
    refine ⟨⟨?_, by rintro _ ⟨⟩⟩, fun v hv => hv.imp_right fun hv => ⟨hv.1, ?_⟩, fun _ _ => rfl⟩
    · show b.taken + used ≤ b.storage.length
      omega
    · exact Nat.le_trans hv.2 (Nat.le_add_right ..)

/-- **An operation keeps the views that were cut off before.** -/
theorem step_keeps (h : b.WellFormed) (op : Op) : b.Keeps (b.step op).1 := by
  cases op with
  | resize size => exact keeps_resize h size
  | reserve size => exact keeps_reserve h size
  | write offset data =>
    rw [step]
    dsimp only
    split
    · exact keeps_write h offset data
    · exact .refl h
  | close used => exact keeps_close h used

/-- What each operation keeps, a run keeps. -/
theorem run_keeps (h : b.WellFormed) (ops : List Op) : b.Keeps (b.run ops).1 := by
  induction ops generalizing b with
  | nil => exact .refl h
  | cons op ops ih =>
    have hfirst := step_keeps h op
    exact hfirst.trans (ih hfirst.wellFormed)

/-- A view that was just cut off is one that was handed out. -/
theorem valid_of_step {op : Op} (hv : (b.step op).2 = some v) : (b.step op).1.Valid v := by
  cases op with
  | resize | reserve | write => cases hv
  | close used =>
    have hcloses := b.closes_close used
    rw [step] at hv ⊢
    generalize b.close used = after at hcloses hv
    cases hcloses with
    | notOpen | overflow => cases hv
    | cut =>
      cases hv
      exact .inr ⟨rfl, Nat.le_refl _⟩

/-- Every view that a run cuts off is good at its end. -/
theorem valid_of_mem_run (h : b.WellFormed) {ops : List Op} (hv : v ∈ (b.run ops).2) :
    (b.run ops).1.Valid v := by
  induction ops generalizing b with
  | nil => cases hv
  | cons op ops ih =>
    have hfirst := step_keeps h op
    rcases List.mem_append.mp hv with hcut | hlater
    · have hvalid := valid_of_step (Option.mem_toList.mp hcut)
      exact (run_keeps hfirst.wellFormed ops).valid v hvalid
    · exact ih hfirst.wellFormed hlater

/-! ### The region that is open

What a region holds is told by the operations since it was opened: its first bytes, and what was
written over them.  That the buffer has just this in the rest of its chunk is what makes writing in
place mean something. -/

/-- The bytes of the region that is open. -/
def openRegion? (b : SendBuffer) : Option Bytes := b.reserved.map fun _ => b.region

/-- What an operation on `b` makes of the bytes of the open region. -/
def follow (b : SendBuffer) (region? : Option Bytes) : Op → Option Bytes
  | .resize _ => region?
  | .reserve size => some (b.reserve size).region
  | .write offset data => region?.map (·.overwrite offset data)
  | .close _ => none

/-- The bytes of the region that is open after the operations: those that it was opened with, and
what was written over them. -/
def opened? (b : SendBuffer) (region? : Option Bytes) : List Op → Option Bytes
  | [] => region?
  | op :: ops => (b.step op).1.opened? (b.follow region? op) ops

theorem openRegion?_of_none (h : b.reserved = none) : b.openRegion? = none := by
  rw [openRegion?, h, Option.map_none]

/-- An operation does to the open region what it says. -/
theorem openRegion?_step (h : b.WellFormed) (op : Op) :
    (b.step op).1.openRegion? = b.follow b.openRegion? op := by
  cases op with
  | resize | reserve => rfl
  | write offset data =>
    rw [step, follow, openRegion?, openRegion?]
    dsimp only
    cases hopen : b.reserved with
    | none => simp [hopen]
    | some n =>
      rw [Option.isSome_some, if_pos rfl, region_write h]
      show b.reserved.map _ = _
      rw [hopen, Option.map_some, Option.map_some, Option.map_some]
  | close used => exact openRegion?_of_none (b.closes_close used).reserved_eq

/-- **The region that is open is the rest of the current chunk**, with the bytes that the operations
left in it. -/
theorem opened?_eq (h : b.WellFormed) (ops : List Op) :
    b.opened? b.openRegion? ops = (b.run ops).1.openRegion? := by
  induction ops generalizing b with
  | nil => rfl
  | cons op ops ih =>
    rw [opened?, ← openRegion?_step h]
    exact ih (step_keeps h op).wellFormed

/-! ### How chunks are used up

A chunk is cut up from its front.  The views that are cut off it follow one another without gaps, so
that their lengths add up to what is taken; nothing else takes bytes of it. -/

theorem chunkSize_reserve (b : SendBuffer) (size : Nat) : (b.reserve size).chunkSize = b.chunkSize := by
  rw [reserve_eq]
  split <;> rfl

theorem chunkSize_close (b : SendBuffer) (used : Nat) : (b.close used).1.chunkSize = b.chunkSize := by
  have hcloses := b.closes_close used
  generalize b.close used = after at hcloses
  cases hcloses <;> rfl

/-- The chunk size is the one that was asked for last, or one byte if that was none. -/
theorem chunkSize_run {size : Nat} (h : b.chunkSize = effectiveChunkSize size) (ops : List Op) :
    (b.run ops).1.chunkSize = effectiveChunkSize (Op.lastSize size ops) := by
  induction ops generalizing b size with
  | nil => exact h
  | cons op ops ih =>
    cases op with
    | resize size' => exact ih rfl
    | reserve hint => exact ih ((chunkSize_reserve b hint).trans h)
    | write offset data =>
      refine ih ?_
      split <;> exact h
    | close used => exact ih ((chunkSize_close b used).trans h)

theorem length_storage_write (b : SendBuffer) (offset : Nat) (data : Bytes) :
    (b.write offset data).storage.length = b.storage.length := by
  show (b.storage.take b.taken ++ b.region.overwrite offset data).length = _
  rw [List.length_append, Bytes.length_overwrite, ← List.length_append, region,
    List.take_append_drop]

theorem chunks_close (b : SendBuffer) (used : Nat) : (b.close used).1.chunks = b.chunks := by
  have hcloses := b.closes_close used
  generalize b.close used = after at hcloses
  cases hcloses <;> rfl

/-- Only opening a region starts another chunk, and nothing changes how long a chunk is. -/
theorem length_chunks_step (b : SendBuffer) {op : Op} (hopen : ∀ size, op ≠ .reserve size) :
    (b.step op).1.chunks.map List.length = b.chunks.map List.length := by
  cases op with
  | reserve size => exact absurd rfl (hopen size)
  | resize size => rfl
  | write offset data =>
    rw [step]
    dsimp only
    split
    · rw [chunks, chunks, List.map_append, List.map_append, List.map_singleton, List.map_singleton,
        length_storage_write]
      rfl
    · rfl
  | close used => exact congrArg (List.map List.length) (chunks_close b used)

/-- How many bytes of the current chunk the views have. -/
def cutOff (b : SendBuffer) (views : List View) : Nat :=
  ((views.filter (·.chunk = b.retired.length)).map View.length).sum

/-- The views account for what was handed out of the current chunk. -/
structure Accounts (b : SendBuffer) (views : List View) : Prop where
  chunk_le : ∀ v ∈ views, v.chunk ≤ b.retired.length
  cutOff_eq : b.cutOff views = b.taken

/-- A fresh chunk has no views yet. -/
theorem accounts_reserve {views : List View} (h : b.Accounts views) (size : Nat) :
    (b.reserve size).Accounts views := by
  rw [reserve_eq]
  split
  · exact ⟨h.chunk_le, h.cutOff_eq⟩
  · have hchunk : ∀ v ∈ views, v.chunk < b.chunks.length := fun v hv => by
      have hle := h.chunk_le v hv
      rw [chunks, List.length_append, List.length_singleton]
      omega
    -- no view has bytes of the fresh chunk yet
    have hnone : views.filter (·.chunk = b.chunks.length) = [] :=
      List.filter_eq_nil_iff.mpr fun v hv => by
        rw [decide_eq_true_eq]
        exact Nat.ne_of_lt (hchunk v hv)
    refine ⟨fun v hv => Nat.le_of_lt (hchunk v hv), ?_⟩
    rw [cutOff]
    dsimp only
    rw [hnone]
    rfl

/-- What is cut off is accounted for. -/
theorem accounts_close {views : List View} (h : b.Accounts views) (used : Nat) :
    (b.close used).1.Accounts (views ++ (b.close used).2.toOption.toList) := by
  have hcloses := b.closes_close used
  generalize b.close used = after at hcloses
  cases hcloses with
  | notOpen =>
    show b.Accounts (views ++ [])
    rwa [List.append_nil]
  | overflow =>
    show Accounts { b with reserved := none } (views ++ [])
    rw [List.append_nil]
    exact ⟨h.chunk_le, h.cutOff_eq⟩
  | cut =>
    refine ⟨fun v hv => ?_, ?_⟩
    · rcases List.mem_append.mp hv with hold | hnew
      · exact h.chunk_le v hold
      · cases List.mem_singleton.mp hnew
        exact Nat.le_refl _
    · have hsum := h.cutOff_eq
      rw [cutOff] at hsum ⊢
      simp [Except.toOption, hsum]

theorem accounts_step {views : List View} (h : b.Accounts views) (op : Op) :
    (b.step op).1.Accounts (views ++ (b.step op).2.toList) := by
  cases op with
  | resize size =>
    rw [step, Option.toList_none, List.append_nil]
    exact ⟨h.chunk_le, h.cutOff_eq⟩
  | reserve size =>
    rw [step, Option.toList_none, List.append_nil]
    exact accounts_reserve h size
  | write offset data =>
    rw [step, Option.toList_none, List.append_nil]
    dsimp only
    split
    · exact ⟨h.chunk_le, h.cutOff_eq⟩
    · exact h
  | close used => exact accounts_close h used

/-- **The views account for the chunk** at any time. -/
theorem accounts_run {views : List View} (h : b.Accounts views) (ops : List Op) :
    (b.run ops).1.Accounts (views ++ (b.run ops).2) := by
  induction ops generalizing b views with
  | nil => rwa [run, List.append_nil]
  | cons op ops ih =>
    rw [run, ← List.append_assoc]
    exact ih (accounts_step h op)

end SendBuffer

end ChatLobby
