import ChatLobby.Bytes
import ChatLobby.IoError

/-!
# Writing a batch

Queued payloads are handed to the socket together, some number of them in one write.  The socket
may take any part of what it is offered, even the middle of a payload; the rest is offered again.

* `flatten_dropSent`: what remains of a batch is the batch without the bytes that were taken.
* `length_offer_pos`: as long as something remains, something is offered, as no payload is empty and
  none becomes empty (`nil_notMem_dropSent`).
* `write` is the loop over the writes; it ends because each write that works takes something.
-/

namespace ChatLobby.Batch

/-- How many payloads one write offers. -/
def offerLimit : Nat := 64

/-- The batch without its first `n` bytes. -/
def dropSent : (n : Nat) → List Bytes → List Bytes
  | _, [] => []
  | n, b :: batch =>
    if n = 0 then b :: batch
    else if b.length ≤ n then dropSent (n - b.length) batch
    else b.drop n :: batch

/-- What one write offers of the batch. -/
def offer (batch : List Bytes) : Bytes := (batch.take offerLimit).flatten

/-- What came of writing a batch. -/
structure Outcome where
  /-- The bytes the socket took. -/
  sent : Bytes
  /-- How many there were, if they were all. -/
  result : Except IoError Nat

theorem flatten_dropSent (n : Nat) (batch : List Bytes) :
    (dropSent n batch).flatten = batch.flatten.drop n := by
  induction batch generalizing n with
  | nil => simp [dropSent]
  | cons b batch ih =>
    unfold dropSent
    split
    · next h => simp [h]
    · split
      · next h =>
        rw [ih, List.flatten_cons, List.drop_append, List.drop_eq_nil_of_le h, List.nil_append]
      · next h =>
        rw [List.flatten_cons, List.flatten_cons, List.drop_append_of_le_length (by omega)]

theorem length_offer_le (batch : List Bytes) : (offer batch).length ≤ batch.flatten.length := by
  unfold offer
  conv => rhs; rw [← List.take_append_drop offerLimit batch]
  rw [List.flatten_append, List.length_append]
  omega

/-- A batch without empty payloads has bytes, unless there is nothing in it. -/
theorem eq_nil_of_flatten {batch : List Bytes} (hbatch : [] ∉ batch) (h : batch.flatten = []) :
    batch = [] := by
  refine List.eq_nil_iff_forall_not_mem.mpr fun b hb => ?_
  rw [List.flatten_eq_nil_iff.mp h b hb] at hb
  exact hbatch hb

/-- As long as something is left, something is offered. -/
theorem length_offer_pos {batch : List Bytes} (hbatch : [] ∉ batch) (hne : batch ≠ []) :
    0 < (offer batch).length := by
  refine List.length_pos_iff.mpr fun hoffer => ?_
  have hfront : batch.take offerLimit = [] :=
    eq_nil_of_flatten (fun hmem => hbatch (List.mem_of_mem_take hmem)) hoffer
  rcases List.take_eq_nil_iff.mp hfront with hlimit | hnil
  · cases hlimit
  · exact hne hnil

/-- Write a batch.  `taken k n` says how many of `n` offered bytes the socket takes in the `k`-th
write; a socket that takes none of them is at fault. -/
def write (taken : Nat → Nat → Nat) (k : Nat) (batch : List Bytes) : Outcome :=
  if batch.isEmpty then { sent := [], result := .ok 0 }
  else
    let n := min (taken k (offer batch).length) (offer batch).length
    if h : n = 0 then { sent := [], result := .error .wroteNothing }
    else
      let rest := write taken (k + 1) (dropSent n batch)
      { sent := (offer batch).take n ++ rest.sent, result := rest.result.map (n + ·) }
termination_by batch.flatten.length
decreasing_by
  have := length_offer_le batch
  rw [flatten_dropSent, List.length_drop]
  omega

/-- What a write takes of its offer, it takes of the batch. -/
theorem take_offer {n : Nat} {batch : List Bytes} (h : n ≤ (offer batch).length) :
    (offer batch).take n = batch.flatten.take n := by
  have hsplit : batch.flatten = offer batch ++ (batch.drop offerLimit).flatten := by
    rw [offer, ← List.flatten_append, List.take_append_drop]
  rw [hsplit, List.take_append_of_le_length h]

theorem nil_notMem_dropSent {n : Nat} {batch : List Bytes} (h : [] ∉ batch) :
    [] ∉ dropSent n batch := by
  induction batch generalizing n with
  | nil => exact h
  | cons b batch ih =>
    have hbatch : [] ∉ batch := fun hmem => h (List.mem_cons_of_mem b hmem)
    unfold dropSent
    split
    · exact h
    · split
      · exact ih hbatch
      · next hlt =>
        -- a part of the first payload is left
        rw [List.mem_cons, not_or]
        refine ⟨fun heq => ?_, hbatch⟩
        have hlen := congrArg List.length heq
        rw [List.length_drop, List.length_nil] at hlen
        omega

end ChatLobby.Batch
