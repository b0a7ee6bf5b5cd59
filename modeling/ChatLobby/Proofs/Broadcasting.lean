import ChatLobby.Proofs.Calling
import ChatLobby.Registry
import Mathlib.Data.List.Nodup

/-!
# What a broadcast does

A broadcast goes along a list of entries and sends a payload over each of them, as far as that is
accepted.  The same connection may be met several times, and where it stands decides whether it
accepts anything.  Since sending does not change where any connection stands, all that can be known
beforehand.

* `Hub.delivers_sendTo`: who accepts the payload and how often, how many that are, and that nothing
  else changes.
* `Hub.broadcast_exact`: this holds of every room, of every registry, and of the rooms of a
  directory.
-/

namespace ChatLobby

variable {σ τ : Type}

/-! ## One connection -/

namespace Connection

variable {c : Connection τ}

/-- The connection after it accepted a payload `n` times.  It is behind all others in the queue,
that often, unless it is empty, and the sending side is told if anything was queued. -/
def accepting (c : Connection τ) (n : Nat) (data : Bytes) : Connection τ :=
  { c with
    queue := c.queue ++ if data.isEmpty then [] else List.replicate n data
    sender := if data.isEmpty ∨ n = 0 then c.sender else c.sender.wake
    accepted := c.accepted ++ List.replicate n data }

theorem accepting_zero (c : Connection τ) (data : Bytes) : c.accepting 0 data = c := by
  simp [accepting]

/-- Sending a payload several times is accepting it that often, all at once. -/
theorem sendAll_replicate (h : c.phase = .connected) (n : Nat) (data : Bytes) :
    c.sendAll (List.replicate n data) = c.accepting n data := by
  induction n generalizing c with
  | zero => exact (accepting_zero c data).symm
  | succ n ih =>
    have hphase : (c.send data).2.phase = .connected := by
      rw [send_of_connected h]
      exact h
    have hsent : c.sendAll (List.replicate (n + 1) data) =
        (c.send data).2.sendAll (List.replicate n data) := rfl
    rw [hsent, ih hphase, send_of_connected h, accepting, accepting]
    -- only the first of the payloads leaves a wake-up
    cases data <;> simp [List.replicate_succ]

end Connection

/-! ## The entries of a list

The count of a broadcast is made while payloads are sent, and each send might change what the next
one is answered.  It does not, as a send changes no phase: so the count is that of the beginning,
and the order of the entries does not matter either. -/

namespace Hub

/-- `h.Delivers entries data except ran`: what `ran` says is what becomes of a payload that is sent
along the entries but the excluded one, and nothing else. -/
structure Delivers (h : Hub σ τ) (entries : List ConnectionId) (data : Bytes)
    (except : Option ConnectionId) (ran : Nat × Hub σ τ) : Prop where
  /-- The entries are counted whose connections accept anything, but for the excluded one. -/
  count_eq : ran.1 = entries.countP fun i => h.phase? i = some .connected ∧ some i ≠ except
  /-- Such a connection accepts the payload once for each of its entries; any other is as it was. -/
  connection?_eq : ∀ j, ran.2.connection? j = (h.connection? j).map fun c =>
    if c.phase = .connected ∧ some j ≠ except then c.accepting (entries.count j) data else c
  /-- A connection without entries is as it was. -/
  connection?_of_notMem : ∀ j, j ∉ entries → ran.2.connection? j = h.connection? j
  /-- What handlers share is as it was, and with it who is in which room. -/
  shared_eq : ran.2.shared = h.shared

/-- A payload is accepted by a connection that is connected, and by no other. -/
theorem act_sendTo_fst (h : Hub σ τ) (data : Bytes) (i : ConnectionId) :
    (h.act (Action.sendTo i data)).1 = decide (h.phase? i = some .connected) := by
  rw [act, Action.sendTo, Action.run, phase?, connection?]
  cases h.connections[i.index]? with
  | none => rfl
  | some c =>
    show (c.send data).1 = decide (some c.phase = some .connected)
    by_cases hphase : c.phase = .connected
    · simp [Connection.send_of_connected hphase, hphase]
    · simp [Connection.send_of_ne hphase, hphase]

/-- Sending changes no phase. -/
theorem phase?_tell (h : Hub σ τ) (due : ConnectionId → List Bytes) (j : ConnectionId) :
    (h.tell due).phase? j = h.phase? j := by
  rw [phase?, connection?_tell, Option.map_map, phase?]
  congr 1
  funext c
  exact Connection.phase_sendAll c _

/-- Whether an entry counts is known before anything is sent. -/
theorem act_count_sendTo_fst (h : Hub σ τ) (data : Bytes) (targets : List ConnectionId) :
    (h.act (Action.count (Action.sendTo · data) targets)).1 =
      targets.countP fun i => h.phase? i = some .connected := by
  induction targets generalizing h with
  | nil => rfl
  | cons i targets ih =>
    have hphases : ∀ j, (h.act (Action.sendTo i data)).2.phase? j = h.phase? j := by
      intro j
      rw [act_sendTo_snd, phase?_tell]
    rw [act_count_cons, ih, act_sendTo_fst, List.countP_cons]
    simp only [hphases]

/-- **A payload reaches whoever accepts it**, once for each entry. -/
theorem delivers_sendTo (h : Hub σ τ) (entries : List ConnectionId) (data : Bytes)
    (except : Option ConnectionId) :
    h.Delivers entries data except
      (h.act (Action.count (Action.sendTo · data) (entries.filter fun i => some i ≠ except))) := by
  have hconnection : ∀ j, (h.act (Action.count (Action.sendTo · data)
      (entries.filter fun i => some i ≠ except))).2.connection? j =
        (h.connection? j).map fun c =>
          if c.phase = .connected ∧ some j ≠ except then c.accepting (entries.count j) data
          else c := by
    intro j
    rw [act_sendTo, connection?_tell]
    congr 1
    funext c
    -- where the connection stands decides first, and then whether it is the one left out
    by_cases hphase : c.phase = .connected
    · rw [Connection.sendAll_replicate hphase]
      by_cases hj : some j = except
      · rw [List.count_eq_zero_of_not_mem (by simp [hj]), if_neg (by simp [hj]),
          Connection.accepting_zero]
      · rw [List.count_filter (by simpa using hj), if_pos ⟨hphase, hj⟩]
    · rw [Connection.sendAll_of_ne hphase, if_neg (by simp [hphase])]
  refine ⟨?_, hconnection, fun j hj => ?_, ?_⟩
  · rw [act_count_sendTo_fst, List.countP_filter]
    exact List.countP_congr fun i _ => by simp
  · rw [hconnection, List.count_eq_zero_of_not_mem hj]
    simp [Connection.accepting_zero]
  · rw [act_sendTo]
    rfl

end Hub

/-! ## Who is registered

In a registry nobody has two entries, so that a broadcast to it reaches everyone once.  This is kept
by its operations, also by those that it refuses. -/

namespace Registry

/-- What is done with a registry. -/
inductive Op where
  /-- A connection asks to be admitted. -/
  | insert (i : ConnectionId)
  /-- A connection is removed. -/
  | remove (i : ConnectionId)
  deriving DecidableEq, Repr

/-- Do an operation.  A registry that is full stays as it is. -/
def step (r : Registry) : Op → Registry
  | .insert i => (r.insert i).toOption.getD r
  | .remove i => r.remove i

/-- Do one operation after the other. -/
def run (r : Registry) (ops : List Op) : Registry := ops.foldl step r

/-- Whoever is registered is not registered again. -/
theorem nodup_step {r : Registry} (h : r.ids.Nodup) (op : Op) : (r.step op).ids.Nodup := by
  cases op with
  | remove i => exact h.filter _
  | insert i =>
    rw [step, insert]
    split
    · exact h
    · next hnew =>
      split
      · exact (List.perm_append_singleton i _).nodup_iff.mpr (List.nodup_cons.mpr ⟨hnew, h⟩)
      · exact h

/-- Nobody is registered twice. -/
theorem nodup_run {r : Registry} (h : r.ids.Nodup) (ops : List Op) : (r.run ops).ids.Nodup := by
  induction ops generalizing r with
  | nil => exact h
  | cons op ops ih => exact ih (nodup_step h op)

end Registry

/-! ## Broadcasts -/

/-- **Broadcasts are exact.**  Whoever is in a room, however often and wherever it stands, a
broadcast to the room counts the entries that accept the payload, queues it once for each of them
behind all that was queued before, and changes nothing else.  A broadcast to a registry does the
same with one entry for each registered connection, and one to a directory is one to the room of the
key; if there is no such room, nothing happens. -/
theorem Hub.broadcast_exact {κ : Type} [DecidableEq κ] (h : Hub σ τ) (data : Bytes)
    (except : Option ConnectionId) :
    (∀ room : Room, h.Delivers room.members data except (h.act (room.broadcast data except))) ∧
    (∀ (capacity : Nat) (ops : List Registry.Op),
      let registry := Registry.run { capacity } ops
      registry.ids.Nodup ∧
        h.Delivers registry.ids data except (h.act (registry.broadcast data except))) ∧
    ∀ (d : RoomDirectory κ) (key : κ),
      h.act (d.broadcast key data except) =
        (d.find? key).elim (0, h) fun room => h.act (room.broadcast data except) := by
  refine ⟨fun room => h.delivers_sendTo room.members data except, fun capacity ops => ⟨?_, ?_⟩,
    fun d key => ?_⟩
  · exact Registry.nodup_run List.nodup_nil ops
  · exact h.delivers_sendTo _ data except
  · rw [RoomDirectory.broadcast]
    cases d.find? key <;> rfl

end ChatLobby
