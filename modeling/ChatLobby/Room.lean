import ChatLobby.Connection.Handler

/-!
# Rooms

A room is a list of connections that receive each other's broadcasts.  A `RoomDirectory` keeps
rooms by key; it makes a room when someone enters and forgets it when the last one left.
-/

namespace ChatLobby

/-- The members of a room.  Whoever entered twice is there twice. -/
structure Room where
  members : List ConnectionId := []
  deriving DecidableEq, Repr

/-- Remove an element, and put the last one where it was. -/
def swapRemove {α : Type} (l : List α) (index : Nat) : List α :=
  match l.getLast? with
  | none => []
  | some last => if index + 1 = l.length then l.dropLast else l.dropLast.set index last

namespace Room

/-- Add a member. -/
def enter (r : Room) (i : ConnectionId) : Room := ⟨r.members ++ [i]⟩

/-- Whether a connection is a member. -/
def contains (r : Room) (i : ConnectionId) : Bool := r.members.contains i

/-- How many entries there are. -/
def count (r : Room) : Nat := r.members.length

/-- Whether nobody is there. -/
def isEmpty (r : Room) : Bool := r.members.isEmpty

/-- Remove one entry of a connection; `none` if it has none. -/
def leave? (r : Room) (i : ConnectionId) : Option Room :=
  (r.members.findIdx? (· = i)).map fun index => ⟨swapRemove r.members index⟩

/-- Send a payload to every member but `except`, and count those who accepted it. -/
def broadcast (r : Room) (data : Bytes) (except : Option ConnectionId) : Action Nat :=
  Action.count (Action.sendTo · data) (r.members.filter fun i => some i ≠ except)

end Room

/-- Rooms by key.  Each key occurs once. -/
structure RoomDirectory (κ : Type) where
  rooms : List (κ × Room) := []
  deriving DecidableEq, Repr

namespace RoomDirectory

variable {κ : Type} [DecidableEq κ]

/-- The room of a key, if there is one. -/
def find? (d : RoomDirectory κ) (key : κ) : Option Room := d.rooms.lookup key

/-- Put a room in the place of the one that a key has, or behind all others. -/
def put (d : RoomDirectory κ) (key : κ) (room : Room) : RoomDirectory κ where
  rooms :=
    if (d.find? key).isSome then d.rooms.map fun entry => if entry.1 = key then (key, room) else entry
    else d.rooms ++ [(key, room)]

/-- Forget the room of a key. -/
def forget (d : RoomDirectory κ) (key : κ) : RoomDirectory κ where
  rooms := d.rooms.filter (·.1 ≠ key)

/-- How many rooms there are. -/
def count (d : RoomDirectory κ) : Nat := d.rooms.length

/-- Enter the room of a key, which is made if there is none.  Answers how many entries it has
then. -/
def enter (d : RoomDirectory κ) (key : κ) (i : ConnectionId) : Nat × RoomDirectory κ :=
  let room := ((d.find? key).getD {}).enter i
  (room.count, d.put key room)

/-- Leave the room of a key, which is forgotten once it is empty.  Answers how many entries it has
then; `none` if there was no entry to remove. -/
def leave (d : RoomDirectory κ) (key : κ) (i : ConnectionId) : Option Nat × RoomDirectory κ :=
  match (d.find? key).bind (·.leave? i) with
  | none => (none, d)
  | some room => (some room.count, if room.isEmpty then d.forget key else d.put key room)

/-- Send a payload to the room of a key; to nobody if there is none. -/
def broadcast (d : RoomDirectory κ) (key : κ) (data : Bytes) (except : Option ConnectionId) :
    Action Nat :=
  match d.find? key with
  | some room => room.broadcast data except
  | none => pure 0

end RoomDirectory

/-! ### Entering and leaving -/

/-- Removing by swapping removes one entry, up to order. -/
theorem swapRemove_perm {α : Type} {l : List α} {index : Nat} (h : index < l.length) :
    (l[index] :: swapRemove l index).Perm l := by
  obtain ⟨front, last, rfl⟩ : ∃ front last, l = front ++ [last] :=
    ⟨l.dropLast, l.getLast (by rintro rfl; simp at h), (List.dropLast_concat_getLast _).symm⟩
  simp only [swapRemove, List.getLast?_concat, List.dropLast_concat, List.length_append,
    List.length_singleton, Nat.add_right_cancel_iff]
  split
  · next hi =>
    subst hi
    simpa using (List.perm_append_singleton last front).symm
  · next hi =>
    have hlt : index < front.length := by simp at h; omega
    rw [List.getElem_append_left hlt]
    have hset : front.set index last = front.take index ++ last :: front.drop (index + 1) :=
      List.set_eq_take_append_cons_drop.trans (if_pos hlt)
    have hfront : front = front.take index ++ front[index] :: front.drop (index + 1) := by
      rw [List.getElem_cons_drop, List.take_append_drop]
    rw [hset]
    conv => rhs; rw [hfront]
    refine (List.Perm.cons _ List.perm_middle).trans ?_
    refine (List.Perm.swap _ _ _).trans ?_
    refine List.Perm.trans ?_ (List.perm_append_singleton last _).symm
    exact List.Perm.cons _ List.perm_middle.symm

/-- Leaving removes one entry of the connection, up to order. -/
theorem Room.perm_of_leave? {r r' : Room} {i : ConnectionId} (h : r.leave? i = some r') :
    (i :: r'.members).Perm r.members := by
  simp only [leave?, Option.map_eq_some_iff] at h
  obtain ⟨index, hi, rfl⟩ := h
  obtain ⟨hlt, heq, -⟩ := List.findIdx?_eq_some_iff_getElem.1 hi
  have : r.members[index] = i := by simpa using heq
  exact this ▸ swapRemove_perm hlt

/-- Whoever is a member can leave. -/
theorem Room.isSome_leave? {r : Room} {i : ConnectionId} :
    (r.leave? i).isSome ↔ i ∈ r.members := by
  simp [leave?, List.findIdx?_isSome]

end ChatLobby
