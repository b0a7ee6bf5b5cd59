import ChatLobby.Connection.Batch

/-!
# Partial writes

A socket answers each write with how many of the offered bytes it took, and may take fewer than all.
`Batch.Writing` is where the writing of a batch stands between two writes, told by the answers
alone. What was taken and what is left are the batch at any time (`Writing.Divides`).  As empty
payloads are never queued, there is something to offer as long as anything is left, and every write
takes a byte at least, so that nothing is left in the end.

* `Batch.write_eq_behind`: whatever was written already, `Batch.write` does the rest.
* `Batch.write_exact`: whatever the answers are, the socket takes the batch and nothing else.
-/

namespace ChatLobby.Batch

variable {taken : Nat → Nat → Nat} {batch : List Bytes} {n : Nat}

/-! ## What is left

Dropping bytes from a batch drops payloads that are used up, and shortens the next one. -/

/-- Nothing is left of a batch just where at least its bytes were taken. -/
theorem dropSent_eq_nil_iff (hbatch : [] ∉ batch) :
    dropSent n batch = [] ↔ batch.flatten.length ≤ n := by
  rw [← List.drop_eq_nil_iff, ← flatten_dropSent]
  constructor
  · intro h
    rw [h]
    rfl
  · exact eq_nil_of_flatten (nil_notMem_dropSent hbatch)

/-! ## From write to write -/

/-- Where the writing of a batch stands between two writes. -/
structure Writing where
  /-- The bytes the socket took. -/
  sent : Bytes := []
  /-- How many there were, by its answers. -/
  total : Nat := 0
  /-- What is left of the batch. -/
  left : List Bytes
  deriving DecidableEq, Repr

namespace Writing

/-- What the socket answers to the next write, which is the `k`-th. -/
def answer (taken : Nat → Nat → Nat) (k : Nat) (w : Writing) : Nat := taken k (offer w.left).length

/-- Write once more, unless nothing is left. -/
def step (taken : Nat → Nat → Nat) (k : Nat) (w : Writing) : Writing :=
  if w.left.isEmpty then w
  else
    { sent := w.sent ++ (offer w.left).take (w.answer taken k)
      total := w.total + w.answer taken k
      left := dropSent (w.answer taken k) w.left }

/-- Where the writing of `batch` stands after the first `k` writes. -/
def after (taken : Nat → Nat → Nat) (batch : List Bytes) : (k : Nat) → Writing
  | 0 => { left := batch }
  | k + 1 => (after taken batch k).step taken k

/-- The answer to the next write, if there is one, is that the socket took one byte at least and no
more than it was offered. -/
def Answered (taken : Nat → Nat → Nat) (k : Nat) (w : Writing) : Prop :=
  w.left ≠ [] → 0 < w.answer taken k ∧ w.answer taken k ≤ (offer w.left).length

/-- What was taken and what is left are the batch, and the answers say how much was taken. -/
structure Divides (batch : List Bytes) (w : Writing) : Prop where
  bytes : w.sent ++ w.left.flatten = batch.flatten
  total_eq : w.total = w.sent.length

variable {w : Writing} {k : Nat}

theorem step_of_nil (h : w.left = []) : w.step taken k = w := by
  rw [step, h]
  rfl

/-- Otherwise the batch is offered, and the socket takes what it answers. -/
theorem step_of_ne (h : w.left ≠ []) :
    w.step taken k =
      { sent := w.sent ++ (offer w.left).take (w.answer taken k)
        total := w.total + w.answer taken k
        left := dropSent (w.answer taken k) w.left } := by
  rw [step, if_neg fun hempty => h (List.isEmpty_iff.mp hempty)]

/-- A write moves bytes from what is left to what was taken. -/
theorem Divides.step (h : w.Divides batch) (hanswered : w.Answered taken k) :
    (w.step taken k).Divides batch := by
  by_cases hleft : w.left = []
  · rw [step_of_nil hleft]
    exact h
  obtain ⟨_, hle⟩ := hanswered hleft
  rw [step_of_ne hleft]
  refine ⟨?_, ?_⟩
  · show w.sent ++ (offer w.left).take (w.answer taken k) ++
      (dropSent (w.answer taken k) w.left).flatten = batch.flatten
    rw [flatten_dropSent, take_offer hle, List.append_assoc, List.take_append_drop, h.bytes]
  · show w.total + w.answer taken k =
      (w.sent ++ (offer w.left).take (w.answer taken k)).length
    rw [List.length_append, List.length_take, Nat.min_eq_left hle, h.total_eq]

/-- A write that takes something brings the total on. -/
theorem lt_total_step (hleft : w.left ≠ []) (hanswered : w.Answered taken k) :
    w.total < (w.step taken k).total := by
  obtain ⟨hpos, _⟩ := hanswered hleft
  rw [step_of_ne hleft]
  exact Nat.lt_add_of_pos_right hpos

/-- Any number of writes leaves what was taken and what is left together the batch. -/
theorem divides_after (hanswered : ∀ k, (after taken batch k).Answered taken k) :
    (after taken batch k).Divides batch := by
  induction k with
  | zero => exact ⟨rfl, rfl⟩
  | succ k ih => exact ih.step (hanswered k)

/-- No empty payload ever comes to the front, whatever the answers are. -/
theorem nil_notMem_left_after (hbatch : [] ∉ batch) : [] ∉ (after taken batch k).left := by
  induction k with
  | zero => exact hbatch
  | succ k ih =>
    rw [after, step]
    split
    · exact ih
    · exact nil_notMem_dropSent ih

/-- A socket that takes something of whatever it is offered answers every write. -/
theorem answered_after (hbatch : [] ∉ batch)
    (htaken : ∀ k n, 0 < n → 0 < taken k n ∧ taken k n ≤ n) :
    (after taken batch k).Answered taken k :=
  fun hleft => htaken k _ (length_offer_pos (nil_notMem_left_after hbatch) hleft)

/-- As long as something is left, at least a byte was taken by every write. -/
theorem le_total_after (hanswered : ∀ k, (after taken batch k).Answered taken k)
    (hleft : (after taken batch k).left ≠ []) : k ≤ (after taken batch k).total := by
  induction k with
  | zero => exact Nat.zero_le _
  | succ k ih =>
    -- what is left now was left before
    have hbefore : (after taken batch k).left ≠ [] := by
      intro hnil
      rw [after, step_of_nil hnil] at hleft
      exact hleft hnil
    exact Nat.lt_of_le_of_lt (ih hbefore) (lt_total_step hbefore (hanswered k))

/-- **Writing ends**, after as many writes as the batch has bytes at the latest. -/
theorem left_after (hbatch : [] ∉ batch)
    (hanswered : ∀ k, (after taken batch k).Answered taken k) (hk : batch.flatten.length ≤ k) :
    (after taken batch k).left = [] := by
  have hdivides := divides_after (k := k) hanswered
  have hlength := congrArg List.length hdivides.bytes
  rw [List.length_append, ← hdivides.total_eq] at hlength
  by_cases hleft : (after taken batch k).left = []
  · exact hleft
  · -- every byte was taken by now
    have htotal := le_total_after hanswered hleft
    have hnone : (after taken batch k).left.flatten.length = 0 := by omega
    exact eq_nil_of_flatten (nil_notMem_left_after hbatch) (List.length_eq_zero_iff.mp hnone)

/-- What is left after some writes was left before. -/
theorem left_after_ne_of_le {l : Nat} (hleft : (after taken batch k).left ≠ []) (hl : l ≤ k) :
    (after taken batch l).left ≠ [] := by
  induction k with
  | zero =>
    rw [Nat.le_zero.mp hl]
    exact hleft
  | succ k ih =>
    by_cases hlast : l = k + 1
    · rw [hlast]
      exact hleft
    · apply ih
      · intro hnil
        rw [after, step_of_nil hnil] at hleft
        exact hleft hnil
      · omega

/-- There is a first time that nothing is left. -/
theorem exists_left_eq_nil (hbatch : [] ∉ batch)
    (hanswered : ∀ k, (after taken batch k).Answered taken k) :
    ∃ k, (∀ l < k, (after taken batch l).left ≠ []) ∧ (after taken batch k).left = [] := by
  -- one looks for it before a time when nothing is left
  have hsearch : ∀ m, (after taken batch m).left = [] →
      ∃ k, (∀ l < k, (after taken batch l).left ≠ []) ∧ (after taken batch k).left = [] := by
    intro m hm
    induction m with
    | zero => exact ⟨0, fun l hl => absurd hl (Nat.not_lt_zero l), hm⟩
    | succ m ih =>
      by_cases hbefore : (after taken batch m).left = []
      · exact ih hbefore
      · exact ⟨m + 1, fun l hl => left_after_ne_of_le hbefore (Nat.le_of_lt_succ hl), hm⟩
  exact hsearch _ (left_after hbatch hanswered (Nat.le_refl _))

/-- Where nothing is left, everything was taken. -/
theorem Divides.eq_of_nil (h : w.Divides batch) (hleft : w.left = []) :
    w = { sent := batch.flatten, total := batch.flatten.length, left := [] } := by
  obtain ⟨sent, total, left⟩ := w
  obtain ⟨hbytes, htotal⟩ := h
  subst hleft
  rw [List.flatten_nil, List.append_nil] at hbytes
  rw [← hbytes, ← htotal]

end Writing

/-! ## The whole batch

`Batch.write` is a recursion on what is left, and `Writing.after` is counted from the beginning.
They are compared write by write: what `write` does from some point on stands behind what `after`
says of the writes up to there. -/

/-- The outcome of a writing that stands at `w`, when `rest` is the outcome for what is left. -/
def Outcome.behind (w : Writing) (rest : Outcome) : Outcome :=
  { sent := w.sent ++ rest.sent, result := rest.result.map (w.total + ·) }

/-- A batch is written by writing once, and then what is left. -/
theorem write_step {w : Writing} {k : Nat} (hanswered : w.Answered taken k) :
    (write taken k w.left).behind w =
      (write taken (k + 1) (w.step taken k).left).behind (w.step taken k) := by
  by_cases hleft : w.left = []
  · rw [Writing.step_of_nil hleft, hleft, write, write]
    rfl
  obtain ⟨hpos, hle⟩ := hanswered hleft
  have hmin : min (taken k (offer w.left).length) (offer w.left).length = w.answer taken k :=
    Nat.min_eq_left hle
  rw [Writing.step_of_ne hleft, write, if_neg fun hempty => hleft (List.isEmpty_iff.mp hempty)]
  simp only [hmin, dif_neg (Nat.pos_iff_ne_zero.mp hpos)]
  obtain ⟨sent, result⟩ := write taken (k + 1) (dropSent (w.answer taken k) w.left)
  cases result <;> simp [Outcome.behind, Except.map, Nat.add_assoc]

/-- A batch is written by writing `k` times, and then what is left. -/
theorem write_eq_behind (hanswered : ∀ k, (Writing.after taken batch k).Answered taken k)
    (k : Nat) :
    write taken 0 batch =
      (write taken k (Writing.after taken batch k).left).behind (Writing.after taken batch k) := by
  induction k with
  | zero =>
    show write taken 0 batch = (write taken 0 batch).behind { left := batch }
    obtain ⟨sent, result⟩ := write taken 0 batch
    cases result <;> simp [Outcome.behind, Except.map]
  | succ k ih => exact ih.trans (write_step (hanswered k))

/-- **Writing is exact.**  Whatever number of the offered bytes the socket takes in each write, if
it is never none and never more than were offered, the writing of a batch comes to its end: nothing
is left, the socket took the bytes of the batch, in order and each of them once, and it answered so
many. That is the outcome of `write`, which after any number of writes has as much left to do as
`after` says.  What one write leaves is the batch without the bytes that were taken; there are no
empty payloads in it, and nothing is left just where all were taken. -/
theorem write_exact (hbatch : [] ∉ batch)
    (hanswered : ∀ k, (Writing.after taken batch k).Answered taken k) :
    write taken 0 batch = { sent := batch.flatten, result := .ok batch.flatten.length } ∧
    (∀ k, write taken 0 batch =
      (write taken k (Writing.after taken batch k).left).behind (Writing.after taken batch k)) ∧
    (∀ k, batch.flatten.length ≤ k →
      Writing.after taken batch k =
        { sent := batch.flatten, total := batch.flatten.length, left := [] }) ∧
    ∀ n, (dropSent n batch).flatten = batch.flatten.drop n ∧ [] ∉ dropSent n batch ∧
      (dropSent n batch = [] ↔ batch.flatten.length ≤ n) := by
  have hend : ∀ k, batch.flatten.length ≤ k →
      Writing.after taken batch k =
        { sent := batch.flatten, total := batch.flatten.length, left := [] } := by
    intro k hk
    have hdivides := Writing.divides_after (k := k) hanswered
    exact hdivides.eq_of_nil (Writing.left_after hbatch hanswered hk)
  refine ⟨?_, write_eq_behind hanswered, hend, fun n =>
    ⟨flatten_dropSent n batch, nil_notMem_dropSent hbatch, dropSent_eq_nil_iff hbatch⟩⟩
  rw [write_eq_behind hanswered batch.flatten.length, hend _ (Nat.le_refl _), write]
  simp [Outcome.behind, Except.map]

/-- Sixty-six payloads, more than one write offers. -/
def manyPayloads : List Bytes := List.replicate 66 [1, 2, 3]

/-- The first write ends within the second payload, and the others take all they are offered. -/
def haltingly (k n : Nat) : Nat := if k = 0 then min n 4 else n

/-- Sixty-five payloads are left then, of which one is not offered in the second write. -/
theorem write_exact_manyPayloads :
    [] ∉ manyPayloads ∧
    (∀ k, (Writing.after haltingly manyPayloads k).Answered haltingly k) ∧
    (List.range 4).map (fun k => (Writing.after haltingly manyPayloads k).left.length) =
      [66, 65, 1, 0] ∧
    write haltingly 0 manyPayloads = { sent := manyPayloads.flatten, result := .ok 198 } := by
  have hbatch : [] ∉ manyPayloads := by decide
  have hanswered : ∀ k, (Writing.after haltingly manyPayloads k).Answered haltingly k := by
    intro k
    apply Writing.answered_after hbatch
    intro k n hn
    unfold haltingly
    split <;> omega
  exact ⟨hbatch, hanswered, by decide +kernel, (write_exact hbatch hanswered).1⟩

end ChatLobby.Batch
