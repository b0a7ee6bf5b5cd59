import ChatLobby.Proofs.Directory
import Mathlib.Data.Multiset.AddSub
import Mathlib.Data.Set.Card

/-!
# The directory as a map of bags

Connections enter and leave under keys, some of them several times.  What there is to know about
that are bags: for each key, the connections that entered and did not leave, each as often as it is
there. Bags have no order, there is no room to be made or forgotten, and nothing to search.  The
directory has all this, and still answers what the bags say.

* `Represents.step`: an operation on the directory does to its rooms what it does to the bags.
* `RoomDirectory.refines_bags`: so do all operations, one after the other.
-/

namespace ChatLobby.RoomDirectory

variable {κ : Type}

/-! ## Operations

Keys are of any kind, and nothing is assumed about the order of operations: a connection may enter a
room in which it is, and leave one in which it is not. -/

/-- What is done with a directory. -/
inductive Op (κ : Type) where
  /-- A connection enters the room of a key. -/
  | enter (key : κ) (i : ConnectionId)
  /-- A connection leaves the room of a key. -/
  | leave (key : κ) (i : ConnectionId)
  deriving DecidableEq, Repr

/-- The key of the room that an operation is about. -/
def Op.key : Op κ → κ
  | enter key _ | leave key _ => key

variable [DecidableEq κ] {d : RoomDirectory κ} {key : κ} {room : Room} {i : ConnectionId}

/-- Do an operation.  Answers how many entries the room has then; `none` if it did not change. -/
def step (d : RoomDirectory κ) : Op κ → Option Nat × RoomDirectory κ
  | .enter key i => (some (d.enter key i).1, (d.enter key i).2)
  | .leave key i => d.leave key i

/-- Do one operation after the other. -/
def run (d : RoomDirectory κ) (ops : List (Op κ)) : RoomDirectory κ :=
  ops.foldl (fun d op => (d.step op).2) d

/-! ## Bags

`Multiset` is what is left of a room when the order of its entries is forgotten.  The directory
takes an entry out by moving the last one into its place, so that only bags can be compared. -/

/-- For each key, the connections that entered and did not leave. -/
abbrev Bags (κ : Type) := κ → Multiset ConnectionId

namespace Bags

/-- The bags after an operation.  To leave takes one entry out of the bag, if there is one. -/
def step (b : Bags κ) : Op κ → Bags κ
  | .enter key i => Function.update b key (i ::ₘ b key)
  | .leave key i => Function.update b key ((b key).erase i)

/-- The bags after some operations. -/
def run (b : Bags κ) (ops : List (Op κ)) : Bags κ := ops.foldl step b

end Bags

/-- `d.Represents b`: the rooms of the directory are the bags that are not empty. -/
structure Represents (d : RoomDirectory κ) (b : Bags κ) : Prop where
  nodup_keys : (d.rooms.map (·.1)).Nodup
  nonempty : ∀ entry ∈ d.rooms, entry.2.members ≠ []
  bag_eq : ∀ key, (d.membersOf key : Multiset ConnectionId) = b key

namespace Represents

variable {b : Bags κ}

theorem empty : ({} : RoomDirectory κ).Represents fun _ => 0 where
  nodup_keys := List.nodup_nil
  nonempty _ h := absurd h List.not_mem_nil
  bag_eq _ := rfl

/-- Whether someone is there does not depend on the order. -/
theorem mem_iff (h : d.Represents b) (key : κ) (i : ConnectionId) :
    i ∈ d.membersOf key ↔ i ∈ b key := by
  rw [← h.bag_eq, Multiset.mem_coe]

/-- A room that is put becomes the bag of its key. -/
theorem put (h : d.Represents b) (key : κ) (hne : room.members ≠ []) :
    (d.put key room).Represents (Function.update b key room.members) where
  nodup_keys := nodup_keys_put h.nodup_keys room
  nonempty entry hentry := by
    have hfind := find?_of_mem (nodup_keys_put h.nodup_keys room) hentry
    rw [find?_put] at hfind
    split at hfind
    · cases hfind
      exact hne
    · exact h.nonempty _ (mem_of_find? hfind)
  bag_eq other := by
    rw [membersOf_put, Function.update_apply]
    split
    · rfl
    · exact h.bag_eq other

/-- A key without a room has an empty bag. -/
theorem forget (h : d.Represents b) (key : κ) :
    (d.forget key).Represents (Function.update b key 0) where
  nodup_keys := nodup_keys_forget h.nodup_keys key
  nonempty entry hentry := h.nonempty entry (List.mem_of_mem_filter hentry)
  bag_eq other := by
    rw [membersOf_forget, Function.update_apply]
    split
    · rfl
    · exact h.bag_eq other

/-- To enter adds an entry, whether or not there was one before. -/
theorem enter (h : d.Represents b) (key : κ) (i : ConnectionId) :
    (d.enter key i).2.Represents (b.step (.enter key i)) ∧
      (d.enter key i).1 = (i ::ₘ b key).card := by
  have hmembers : ((d.membersOf key ++ [i] : List ConnectionId) : Multiset ConnectionId) =
      i ::ₘ b key := by
    rw [← h.bag_eq, Multiset.cons_coe, Multiset.coe_eq_coe]
    exact List.perm_append_singleton i _
  have hne : (((d.find? key).getD {}).enter i).members ≠ [] :=
    List.append_ne_nil_of_right_ne_nil _ (List.cons_ne_nil i [])
  have hput := h.put key hne
  refine ⟨?_, ?_⟩
  · rw [Bags.step, ← hmembers]
    exact hput
  · rw [← hmembers]
    rfl

/-- To leave takes one entry out, and the last one takes the room with it. -/
theorem leave (h : d.Represents b) (hi : i ∈ b key) :
    (d.leave key i).2.Represents (b.step (.leave key i)) ∧
      (d.leave key i).1 = some ((b key).erase i).card := by
  obtain ⟨room, hperm, hleave⟩ := leave_of_mem ((h.mem_iff key i).mpr hi)
  have hrest : (room.members : Multiset ConnectionId) = (b key).erase i := by
    rw [← h.bag_eq, ← Multiset.coe_eq_coe.mpr hperm, ← Multiset.cons_coe, Multiset.erase_cons_head]
  rw [hleave, Bags.step, ← hrest]
  refine ⟨?_, rfl⟩
  -- a room without members is forgotten, which leaves an empty bag too
  by_cases hempty : room.isEmpty = true
  · rw [if_pos hempty, List.isEmpty_iff.mp hempty]
    exact h.forget key
  · rw [if_neg hempty]
    exact h.put key fun hnil => hempty (List.isEmpty_iff.mpr hnil)

/-- Who has no entry takes none out. -/
theorem leave_of_notMem (h : d.Represents b) (hi : i ∉ b key) : d.leave key i = (none, d) :=
  RoomDirectory.leave_of_notMem fun hmem => hi ((h.mem_iff key i).mp hmem)

/-- **An operation does to the rooms what it does to the bags.** -/
theorem step (h : d.Represents b) (op : Op κ) : (d.step op).2.Represents (b.step op) := by
  cases op with
  | enter key i => exact (h.enter key i).1
  | leave key i =>
    by_cases hi : i ∈ b key
    · exact (h.leave hi).1
    · rw [RoomDirectory.step, h.leave_of_notMem hi, Bags.step, Multiset.erase_of_notMem hi,
        Function.update_eq_self]
      exact h

/-- And so do all operations, by induction over them. -/
theorem run (h : d.Represents b) (ops : List (Op κ)) : (d.run ops).Represents (b.run ops) := by
  induction ops generalizing d b with
  | nil => exact h
  | cons op ops ih => exact ih (h.step op)

theorem isSome_find?_iff (h : d.Represents b) (key : κ) : (d.find? key).isSome ↔ b key ≠ 0 := by
  rw [← h.bag_eq, ne_eq, Multiset.coe_eq_zero, membersOf]
  cases hfind : d.find? key with
  | none => simp
  | some room => simpa using h.nonempty _ (mem_of_find? hfind)

/-- The keys of the rooms are those with a bag that is not empty, each once. -/
theorem encard_eq (h : d.Represents b) : {key | b key ≠ 0}.encard = d.count := by
  have hkeys : {key | b key ≠ 0} = (d.rooms.map (·.1)).toFinset := by
    ext key
    rw [Set.mem_ofPred_eq, ← h.isSome_find?_iff, Option.isSome_iff_ne_none, ne_eq,
      find?_eq_none_iff, not_not, List.coe_toFinset, Set.mem_ofPred_eq]
  rw [hkeys, Set.encard_coe_eq_coe_finsetCard, List.toFinset_card_of_nodup h.nodup_keys,
    List.length_map, count]

end Represents

/-! ## What the directory answers

Everything that can be asked of a directory is collected in `AgreesWith`, together with what its
operations answer.  The order in which rooms stand shows nowhere in it. -/

/-- Nothing that is done under one key is noticed under another. -/
theorem find?_step_of_ne (d : RoomDirectory κ) {op : Op κ} {other : κ} (hne : other ≠ op.key) :
    (d.step op).2.find? other = d.find? other := by
  cases op with
  | enter key i => exact (find?_put d key _ other).trans (if_neg hne)
  | leave key i =>
    rw [step, leave]
    split
    · rfl
    · dsimp only
      split
      · exact (find?_forget d key other).trans (if_neg hne)
      · exact (find?_put d key _ other).trans (if_neg hne)

/-- `d.AgreesWith b`: all that the directory answers is what the bags say. -/
structure AgreesWith (d : RoomDirectory κ) (b : Bags κ) : Prop where
  /-- There is a room for a key just if its bag is not empty. -/
  isSome_find?_iff : ∀ key, (d.find? key).isSome ↔ b key ≠ 0
  /-- A room lists the entries of the bag. -/
  members_eq : ∀ key room, d.find? key = some room →
    (room.members : Multiset ConnectionId) = b key
  /-- It counts them, and is not empty. -/
  length_eq : ∀ key room, d.find? key = some room →
    room.count = (b key).card ∧ room.isEmpty = false
  /-- It knows who is there. -/
  contains_iff : ∀ key room, d.find? key = some room → ∀ i, room.contains i = true ↔ i ∈ b key
  /-- There are as many rooms as bags that are not empty. -/
  count_eq : {key | b key ≠ 0}.encard = d.count
  /-- Entering adds an entry to the bag, and answers how many there are then. -/
  enter_eq : ∀ key i, (d.enter key i).1 = (i ::ₘ b key).card ∧
    ((d.enter key i).2.membersOf key : Multiset ConnectionId) = i ::ₘ b key
  /-- Leaving takes one entry of the connection out of the bag, and answers how many are left. -/
  leave_eq : ∀ key i, i ∈ b key → (d.leave key i).1 = some ((b key).erase i).card ∧
    ((d.leave key i).2.membersOf key : Multiset ConnectionId) = (b key).erase i
  /-- Who is not in the bag cannot leave, and nothing changes. -/
  leave_of_notMem : ∀ key i, i ∉ b key → d.leave key i = (none, d)
  /-- The rooms of all other keys stay as they are, their order included. -/
  find?_step : ∀ (op : Op κ) other, other ≠ op.key → (d.step op).2.find? other = d.find? other

/-- **A directory whose rooms are the bags answers what the bags say.** -/
theorem Represents.agreesWith {b : Bags κ} (h : d.Represents b) : d.AgreesWith b where
  isSome_find?_iff := h.isSome_find?_iff
  members_eq key room hfind := by
    rw [← h.bag_eq, membersOf, hfind]
    rfl
  length_eq key room hfind := by
    have hne := h.nonempty _ (mem_of_find? hfind)
    rw [← h.bag_eq, membersOf, hfind]
    exact ⟨rfl, by simpa [Room.isEmpty] using hne⟩
  contains_iff key room hfind i := by
    rw [← h.mem_iff, membersOf, hfind]
    exact List.contains_iff_mem
  count_eq := h.encard_eq
  enter_eq key i := by
    have hbag := (h.enter key i).1.bag_eq key
    rw [Bags.step, Function.update_self] at hbag
    exact ⟨(h.enter key i).2, hbag⟩
  leave_eq key i hi := by
    have hbag := (h.leave hi).1.bag_eq key
    rw [Bags.step, Function.update_self] at hbag
    exact ⟨(h.leave hi).2, hbag⟩
  leave_of_notMem key i := h.leave_of_notMem
  find?_step op other := d.find?_step_of_ne

/-- **The directory is a map of bags.**  After any operations on an empty directory, whatever the
keys and however often a connection entered, it answers what the bags say after the same operations.
-/
theorem refines_bags (ops : List (Op κ)) :
    (({} : RoomDirectory κ).run ops).AgreesWith (Bags.run (fun _ => 0) ops) :=
  (Represents.empty.run ops).agreesWith

end ChatLobby.RoomDirectory
