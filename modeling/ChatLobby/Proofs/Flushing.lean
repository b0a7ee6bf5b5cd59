import ChatLobby.Proofs.Acting
import ChatLobby.Proofs.PartialWrites

/-!
# The sending side of a connection

`Connection.sendOn` is one move of the sending side, and `Connection.SendsOn` has a case for each of
the moves.  Anybody may send between two of them, also while a batch is being written, and from
within the callback that is told of the last one.

Two things must not happen then.  A payload may not stay in the queue while the sending side waits
and no wake-up was left for it.  And what is left of a batch may not be given up for the next one.
`Connection.Attended` excludes both: whoever sends keeps it (`Attended.of_touched`), and so does the
sending side (`Attended.sendOn`).

* `Attended.isActive_of_queue`: if something is queued, a flush is under way or a wake-up is left.
* `Connection.writes_eq`: the moves that write a batch do what `Batch.write` does.
-/

namespace ChatLobby

variable {τ : Type}

namespace Connection

/-! ## The moves

The sending side waits until it is woken, looks at the queue, writes the batch that it took, and
tells the handler.  It returns to others after each of these, and a case below is what it does in
between. -/

/-- `c.SendsOn outcome c'`: a move of the sending side may take the connection from `c` to `c'`,
with `outcome`. -/
inductive SendsOn : Connection τ → Except IoError (Option Nat) → Connection τ → Prop
  | idles {c} : c.sender.isActive = false → SendsOn c (.ok none) c
  | wakes {c} : c.sender.stage = .waiting → c.sender.woken = true →
      SendsOn c (.ok none) { c with sender := c.sender.rouse }
  | rests {c} : c.sender.stage = .looking → c.queue = [] →
      SendsOn c (.ok none) { c with sender := c.sender.rest }
  | loads {c} : c.sender.stage = .looking → c.queue ≠ [] →
      SendsOn c (.ok none) { c with queue := c.sender.batch, sender := c.sender.load c.queue }
  | writes {c total n} : c.sender.stage = .writing total → c.sender.batch ≠ [] → 0 < n →
      n ≤ (Batch.offer c.sender.batch).length → SendsOn c (.ok none) (c.wrote total n)
  | stalls {c total} : c.sender.stage = .writing total → c.sender.batch ≠ [] →
      SendsOn c (.error .wroteNothing) c
  | reports {c total} : c.sender.stage = .writing total → c.sender.batch = [] →
      SendsOn c (.ok (some total)) { c with sender := c.sender.lookAgain }

variable {c c' : Connection τ} {outcome : Except IoError (Option Nat)}

/-- What the sending side does is one of its moves. -/
theorem sendsOn (c : Connection τ) (pace : Pace) :
    c.SendsOn (c.sendOn pace).1 (c.sendOn pace).2 := by
  unfold sendOn
  split
  · next hstage =>
    dsimp only
    split
    · next hwoken => exact .wakes hstage hwoken
    · next hwoken => exact .idles (by simp [Sender.isActive, hwoken, hstage])
  · next hstage =>
    dsimp only
    split
    · next hqueue => exact .rests hstage (List.isEmpty_iff.mp hqueue)
    · next hqueue => exact .loads hstage fun hnil => hqueue (List.isEmpty_iff.mpr hnil)
  · next total hstage =>
    split
    · next hbatch => exact .reports hstage (List.isEmpty_iff.mp hbatch)
    · next hbatch =>
      have hleft : c.sender.batch ≠ [] := fun hnil => hbatch (List.isEmpty_iff.mpr hnil)
      dsimp only
      split
      · exact .stalls hstage hleft
      · next hn => exact .writes hstage hleft (Nat.pos_of_ne_zero hn) (Nat.min_le_right ..)

/-- The sending side changes nothing but the queue, what it keeps for itself, and what the peer
received. -/
theorem SendsOn.rest_eq (h : c.SendsOn outcome c') :
    c' = { c with
      queue := c'.queue
      sender := c'.sender
      socket := { c.socket with delivered := c'.socket.delivered } } := by
  cases h <;> rfl

/-- Nothing that the sending side does ends the connection; that is for whoever called it. -/
theorem phase_sendOn (c : Connection τ) (pace : Pace) : (c.sendOn pace).2.phase = c.phase := by
  rw [(c.sendsOn pace).rest_eq]

theorem sendOn_withSession {τ' : Type} (c : Connection τ) (t : τ') (pace : Pace) :
    (c.withSession t).sendOn pace = ((c.sendOn pace).1, (c.sendOn pace).2.withSession t) := by
  have hsender : (c.withSession t).sender = c.sender := rfl
  have hqueue : (c.withSession t).queue = c.queue := rfl
  unfold sendOn
  rw [hsender, hqueue]
  split
  · dsimp only
    split <;> rfl
  · dsimp only
    split <;> rfl
  · split
    · rfl
    · dsimp only
      split <;> rfl

/-- A socket that takes something of whatever it is offered lets no write fail. -/
theorem sendOn_of_takes {pace : Pace} (htakes : ∀ n, 0 < n → 0 < pace.write n)
    (hbatch : [] ∉ c.sender.batch) : ∃ told, (c.sendOn pace).1 = .ok told := by
  unfold sendOn
  split
  · exact ⟨none, rfl⟩
  · exact ⟨none, rfl⟩
  · next total _ =>
    split
    · exact ⟨some total, rfl⟩
    · next hne =>
      have hoffer := Batch.length_offer_pos hbatch fun hnil => hne (List.isEmpty_iff.mpr hnil)
      have htook := htakes _ hoffer
      dsimp only
      rw [if_neg (by omega)]
      exact ⟨none, rfl⟩

/-! ## Nothing is left behind

The mark says that somebody is on the way to the queue.  Whoever sends wakes the sending side only
if the mark is not set, so all depends on when it is taken off: when the queue was found empty, and
not before. -/

/-- The sending side attends to the queue: it is marked as flushing just as long as it will look at
the queue, which is as long as anything is queued; and it has a batch only while it writes. -/
structure Attended (c : Connection τ) : Prop where
  marked : c.sender.flushing = c.sender.isActive
  queue : c.queue ≠ [] → c.sender.flushing = true
  batch : c.sender.batch ≠ [] → ∃ total, c.sender.stage = .writing total
  roused : c.sender.stage ≠ .waiting → c.sender.woken = false

namespace Attended

/-- **No wake-up is lost.**  If something is queued, a flush is under way or a wake-up was left. -/
theorem isActive_of_queue (h : c.Attended) (hqueue : c.queue ≠ []) : c.sender.isActive = true := by
  rw [← h.marked]
  exact h.queue hqueue

/-- There is no batch before the sending side takes one. -/
theorem batch_eq_nil (h : c.Attended) (hstage : ∀ total, c.sender.stage ≠ .writing total) :
    c.sender.batch = [] := by
  by_cases hbatch : c.sender.batch = []
  · exact hbatch
  · obtain ⟨total, hwriting⟩ := h.batch hbatch
    exact absurd hwriting (hstage total)

/-- Where the sending side has nothing to do, nothing is queued and nothing is left of a batch. -/
theorem of_not_isActive (h : c.Attended) (hidle : c.sender.isActive = false) :
    c.queue = [] ∧ c.sender.batch = [] ∧ c.sender.stage = .waiting := by
  have hstage : c.sender.stage = .waiting := by
    simp [Sender.isActive] at hidle
    exact hidle.2
  refine ⟨?_, h.batch_eq_nil (by rw [hstage]; rintro total ⟨⟩), hstage⟩
  by_cases hqueue : c.queue = []
  · exact hqueue
  · have hactive := h.isActive_of_queue hqueue
    rw [hidle] at hactive
    cases hactive

/-- Nothing but the queue and the sending side matters. -/
theorem alike {d : Connection τ} (h : c.Attended) (hqueue : d.queue = c.queue)
    (hsender : d.sender = c.sender) : d.Attended := by
  refine ⟨?_, ?_, ?_, ?_⟩
  · rw [hsender]
    exact h.marked
  · rw [hqueue, hsender]
    exact h.queue
  · rw [hsender]
    exact h.batch
  · rw [hsender]
    exact h.roused

/-- Whoever queues a payload leaves a wake-up, unless there is no need to. -/
theorem wake (h : c.Attended) (queue accepted : List Bytes) :
    Attended { c with queue, accepted, sender := c.sender.wake } := by
  cases hflushing : c.sender.flushing with
  | true =>
    rw [Sender.wake, if_pos hflushing]
    exact ⟨h.marked, fun _ => hflushing, h.batch, h.roused⟩
  | false =>
    -- the sending side waits
    obtain ⟨_, hbatch, hstage⟩ := h.of_not_isActive (by rw [← h.marked, hflushing])
    rw [Sender.wake, if_neg (by rw [hflushing]; decide)]
    exact ⟨rfl, fun _ => rfl, fun hne => absurd hbatch hne, fun hne => absurd hstage hne⟩

/-- A payload that is accepted is not left alone in the queue. -/
theorem send (h : c.Attended) (data : Bytes) : (c.send data).2.Attended := by
  unfold Connection.send
  split
  · dsimp only
    split
    · exact h.alike rfl rfl
    · exact h.wake _ _
  · exact h

theorem disconnect (h : c.Attended) : c.disconnect.2.Attended := by
  unfold Connection.disconnect
  split <;> exact h.alike rfl rfl

/-- What others do keeps the queue attended. -/
theorem of_touched (h : c.Touched c') (hc : c.Attended) : c'.Attended :=
  h.keeps (fun _ data hc => hc.send data) (fun _ hc => hc.disconnect) hc

/-- A move of the sending side keeps the queue attended. -/
theorem sendOn (hc : c.Attended) (h : c.SendsOn outcome c') : c'.Attended := by
  cases h with
  | idles | stalls => exact hc
  | wakes hstage hwoken =>
    have hbatch := hc.batch_eq_nil (by rw [hstage]; rintro total ⟨⟩)
    refine ⟨?_, hc.queue, fun hne => absurd hbatch hne, fun _ => rfl⟩
    show c.sender.flushing = true
    rw [hc.marked, Sender.isActive, hwoken, Bool.true_or]
  | rests hstage hqueue =>
    have hbatch := hc.batch_eq_nil (by rw [hstage]; rintro total ⟨⟩)
    have hwoken := hc.roused (by rw [hstage]; rintro ⟨⟩)
    refine ⟨?_, fun hne => absurd hqueue hne, fun hne => absurd hbatch hne, fun hne => ?_⟩
    · show false = (c.sender.woken || false)
      rw [hwoken, Bool.or_false]
    · exact absurd rfl hne
  | loads hstage hqueue =>
    -- nothing was left of the last batch, so that nothing is queued now
    have hbatch := hc.batch_eq_nil (by rw [hstage]; rintro total ⟨⟩)
    have hwoken := hc.roused (by rw [hstage]; rintro ⟨⟩)
    refine ⟨?_, fun hne => absurd hbatch hne, fun _ => ⟨0, rfl⟩, fun _ => hwoken⟩
    show c.sender.flushing = (c.sender.woken || true)
    rw [hc.queue hqueue, Bool.or_true]
  | writes hstage =>
    have hwoken := hc.roused (by rw [hstage]; rintro ⟨⟩)
    refine ⟨?_, hc.queue, fun _ => ⟨_, rfl⟩, fun _ => hwoken⟩
    show c.sender.flushing = (c.sender.woken || true)
    rw [hc.marked, Sender.isActive, hstage]
    rfl
  | reports hstage hbatch =>
    have hwoken := hc.roused (by rw [hstage]; rintro ⟨⟩)
    refine ⟨?_, hc.queue, fun hne => absurd hbatch hne, fun _ => hwoken⟩
    show c.sender.flushing = (c.sender.woken || true)
    rw [hc.marked, Sender.isActive, hstage]
    rfl

end Attended

/-! ## Writing a batch, move by move

With nobody in between, the moves that write a batch are the writing of it that is described in
`PartialWrites`, where it is told by the answers of the socket alone. -/

open Batch (Writing)

/-- The connection when `w` says how far the writing of its batch is. -/
def writing (c : Connection τ) (w : Writing) : Connection τ :=
  { c with
    sender := { c.sender with stage := .writing w.total, batch := w.left }
    socket := { c.socket with delivered := c.socket.delivered ++ w.sent } }

/-- The connection after `k` moves of the sending side, of which the `k`-th takes `taken k`. -/
def writes (taken : Nat → Nat → Nat) (c : Connection τ) : (k : Nat) → Connection τ
  | 0 => c
  | k + 1 => ((c.writes taken k).sendOn { write := taken k }).2

variable {taken : Nat → Nat → Nat} {w : Writing} {k : Nat}

/-- A write takes of the batch what the socket answers. -/
theorem sendOn_of_writing {pace : Pace} {total n : Nat} (hstage : c.sender.stage = .writing total)
    (hleft : c.sender.batch ≠ []) (hpos : 0 < n)
    (hn : min (pace.write (Batch.offer c.sender.batch).length) (Batch.offer c.sender.batch).length
      = n) :
    c.sendOn pace = (.ok none, c.wrote total n) := by
  subst hn
  unfold sendOn
  rw [hstage]
  dsimp only
  rw [if_neg fun hempty => hleft (List.isEmpty_iff.mp hempty), if_neg (by omega)]

/-- Such a move is a step of the writing. -/
theorem sendOn_writing (hleft : w.left ≠ []) (hanswered : w.Answered taken k) :
    (c.writing w).sendOn { write := taken k } = (.ok none, c.writing (w.step taken k)) := by
  obtain ⟨hpos, hle⟩ := hanswered hleft
  rw [sendOn_of_writing (c := c.writing w) rfl hleft hpos (Nat.min_eq_left hle),
    Writing.step_of_ne hleft]
  simp [wrote, writing, Sender.wrote]

/-- **A batch is written move by move.**  When the sending side has begun to write a batch, its
moves go through what `Batch.Writing.after` says, until nothing of the batch is left.  Then the peer
has received what `Batch.write` sends, and the next move answers how many bytes that were. -/
theorem writes_eq {batch : List Bytes} (hbatch : [] ∉ batch)
    (hc : c.sender.stage = .writing 0 ∧ c.sender.batch = batch)
    (hanswered : ∀ k, (Writing.after taken batch k).Answered taken k) :
    (∀ k, (∀ l < k, (Writing.after taken batch l).left ≠ []) →
      c.writes taken k = c.writing (Writing.after taken batch k)) ∧
    ∃ k, (c.writes taken k).socket.delivered =
        c.socket.delivered ++ (Batch.write taken 0 batch).sent ∧
      ∀ pace, ((c.writes taken k).sendOn pace).1 = (Batch.write taken 0 batch).result.map some := by
  have hall : ∀ k, (∀ l < k, (Writing.after taken batch l).left ≠ []) →
      c.writes taken k = c.writing (Writing.after taken batch k) := by
    intro k hk
    induction k with
    | zero =>
      obtain ⟨hstage, rfl⟩ := hc
      simp [writes, writing, Writing.after, ← hstage]
    | succ k ih =>
      rw [writes, ih fun l hl => hk l (by omega),
        sendOn_writing (hk k (by omega)) (hanswered k)]
      rfl
  refine ⟨hall, ?_⟩
  obtain ⟨k, hfirst, hend⟩ := Writing.exists_left_eq_nil hbatch hanswered
  obtain ⟨hwritten, _⟩ := Batch.write_exact hbatch hanswered
  have hlast := (Writing.divides_after hanswered).eq_of_nil hend
  refine ⟨k, ?_, fun pace => ?_⟩
  · rw [hall k hfirst, hlast, hwritten]
    rfl
  · rw [hall k hfirst, hlast, hwritten]
    rfl

end Connection

end ChatLobby
