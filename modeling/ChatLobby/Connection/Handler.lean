import ChatLobby.Connection.Basic
import ChatLobby.Frame.Decoder

/-!
# Handlers

A handler is told what happens to a connection and answers with actions: it may send over any
connection and ask for the end of any, and sees at once whether that was accepted.  A callback may
also change what all handlers share and what is kept for its own connection, and it may break down
half-way; what it did until then stays done.

`PacketHandler.framed` makes a handler of bytes from a handler of frames.
-/

namespace ChatLobby

/-! ### Actions -/

/-- What is done to connections, one operation after the other, up to a result. -/
inductive Action (α : Type) where
  /-- Nothing more. -/
  | done (result : α)
  /-- Send a payload, and go on knowing whether it was accepted. -/
  | send (target : ConnectionId) (data : Bytes) (next : Bool → Action α)
  /-- Ask for the end, and go on knowing whether that decided it. -/
  | disconnect (target : ConnectionId) (next : Bool → Action α)

namespace Action

variable {α β : Type}

/-- Do `a`, and then what `f` makes of its result. -/
def bind : Action α → (α → Action β) → Action β
  | done result, f => f result
  | send target data next, f => send target data fun accepted => (next accepted).bind f
  | disconnect target next, f => disconnect target fun decided => (next decided).bind f

instance : Monad Action where
  pure := done
  bind := bind

instance : LawfulMonad Action := by
  refine .mk' Action ?_ (fun _ _ => rfl) ?_
  · intro α a
    show a.bind (fun x => done (id x)) = a
    induction a with
    | done => rfl
    | send target data next ih => simp only [bind, ih]
    | disconnect target next ih => simp only [bind, ih]
  · intro α β γ a f g
    show (a.bind f).bind g = a.bind fun x => (f x).bind g
    induction a with
    | done => rfl
    | send target data next ih => simp only [bind, ih]
    | disconnect target next ih => simp only [bind, ih]

/-- Send one payload over one connection. -/
def sendTo (target : ConnectionId) (data : Bytes) : Action Bool := send target data done

/-- Ask for the end of one connection. -/
def close (target : ConnectionId) : Action Bool := disconnect target done

/-- Do the same for each of `targets`, in order, and count where it succeeded. -/
def count (act : ConnectionId → Action Bool) : List ConnectionId → Action Nat
  | [] => done 0
  | target :: targets =>
    (act target).bind fun succeeded =>
      (count act targets).bind fun n => done (if succeeded then n + 1 else n)

end Action

/-! ### Callbacks -/

/-- A callback: actions, with a state `σ` that all share and a state `τ` of the connection, which
may end without a result. -/
abbrev Callback (σ τ : Type) := OptionT (StateT (σ × τ) Action)

namespace Callback

variable {σ τ α : Type}

/-- Break down. -/
def panic : Callback σ τ α := OptionT.fail

/-- Do some actions. -/
def perform (a : Action α) : Callback σ τ α := OptionT.lift (StateT.lift a)

/-- What all share. -/
def shared : Callback σ τ σ := return (← get).1

/-- What is kept for the connection. -/
def session : Callback σ τ τ := return (← get).2

/-- Change what all share. -/
def setShared (s : σ) : Callback σ τ Unit := modify fun (_, t) => (s, t)

/-- Change what is kept for the connection. -/
def setSession (t : τ) : Callback σ τ Unit := modify fun (s, _) => (s, t)

end Callback

/-! ### Handlers -/

/-- What happens when a connection begins, receives, has sent, and has ended. -/
structure Handler (σ τ : Type) where
  /-- The socket is attached. -/
  onConnected : ConnectionId → Callback σ τ Unit := fun _ => pure ()
  /-- Bytes came.  Answers how many of them, from the front, are used up; the others come again
  with more behind them. -/
  onReceived : ConnectionId → Bytes → ExceptT ConnectionError (Callback σ τ) Nat
  /-- So many bytes were sent. -/
  onSent : ConnectionId → Nat → Callback σ τ Unit := fun _ _ => pure ()
  /-- The connection has ended. -/
  onDisconnected : ConnectionId → DisconnectReason → Callback σ τ Unit := fun _ _ => pure ()

/-- A handler that is given frames. -/
structure PacketHandler (σ τ : Type) where
  /-- The socket is attached. -/
  onConnected : ConnectionId → Callback σ τ Unit := fun _ => pure ()
  /-- A frame came. -/
  onPacket : ConnectionId → Frame → ExceptT ConnectionError (Callback σ τ) Unit
  /-- So many bytes were sent. -/
  onSent : ConnectionId → Nat → Callback σ τ Unit := fun _ _ => pure ()
  /-- The connection has ended. -/
  onDisconnected : ConnectionId → DisconnectReason → Callback σ τ Unit := fun _ _ => pure ()

/-- The handler of bytes that cuts them into frames. -/
def PacketHandler.framed {σ τ : Type} (p : FramePolicy) (h : PacketHandler σ τ) : Handler σ τ where
  onConnected := h.onConnected
  onReceived i data := (Decoder.ofPolicy p).decode data (h.onPacket i)
  onSent := h.onSent
  onDisconnected := h.onDisconnected

end ChatLobby
