import ChatLobby.Connection.Batch

/-!
# The sending side

Payloads that were accepted are queued, and the sending side of the connection writes them later.
It waits until it is woken, takes the whole queue for its batch, writes the batch in as many writes
as the socket wants, and looks at the queue again.  It waits again only where it finds nothing
queued.

```
          a wake-up                 something is queued
waiting ─────────────▶ looking ─────────────────────────▶ writing
   ▲                    │   ▲                                │
   └────────────────────┘   └────────────────────────────────┘
      nothing is queued           the batch is written
```

Whoever queues a payload leaves a wake-up, unless the sending side is marked as flushing: it will
look at the queue by itself then.  What others queue while a batch is written is the next batch.
-/

namespace ChatLobby

/-- What the sending side does. -/
inductive SendStage where
  /-- It waits for a wake-up. -/
  | waiting
  /-- It is about to look at the queue. -/
  | looking
  /-- It writes a batch, of which the socket took `total` bytes so far. -/
  | writing (total : Nat)
  deriving DecidableEq, Repr

/-- The sending side of a connection. -/
structure Sender where
  /-- Whether it will look at the queue without being woken again. -/
  flushing : Bool := false
  /-- Whether a wake-up was left for it. -/
  woken : Bool := false
  /-- What it does. -/
  stage : SendStage := .waiting
  /-- What is left of the batch that it writes. -/
  batch : List Bytes := []
  deriving DecidableEq, Repr

namespace Sender

/-- Whether a flush is under way, or a wake-up was left for one. -/
def isActive (s : Sender) : Bool := s.woken || s.stage ≠ .waiting

/-- Leave a wake-up, unless the queue is looked at anyway. -/
def wake (s : Sender) : Sender :=
  if s.flushing then s else { s with flushing := true, woken := true }

@[simp] theorem batch_wake (s : Sender) : s.wake.batch = s.batch := by
  unfold wake
  split <;> rfl

@[simp] theorem stage_wake (s : Sender) : s.wake.stage = s.stage := by
  unfold wake
  split <;> rfl

/-- One wake-up is enough. -/
@[simp] theorem wake_wake (s : Sender) : s.wake.wake = s.wake := by
  cases hflushing : s.flushing with
  | true => simp [wake, hflushing]
  | false => simp [wake, hflushing]

/-- Use the wake-up up. -/
def rouse (s : Sender) : Sender := { s with woken := false, stage := .looking }

/-- Wait, as nothing is queued. -/
def rest (s : Sender) : Sender := { s with flushing := false, stage := .waiting }

/-- Begin to write a batch. -/
def load (s : Sender) (batch : List Bytes) : Sender := { s with stage := .writing 0, batch }

/-- The socket took `n` bytes more of the batch, after `total`. -/
def wrote (s : Sender) (total n : Nat) : Sender :=
  { s with stage := .writing (total + n), batch := Batch.dropSent n s.batch }

/-- Look at the queue again, as the batch is written. -/
def lookAgain (s : Sender) : Sender := { s with stage := .looking }

/-- Give up, and drop what is left of the batch. -/
def stop (s : Sender) : Sender := { s with flushing := false, stage := .waiting, batch := [] }

end Sender

end ChatLobby
