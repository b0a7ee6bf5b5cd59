import ChatLobby.Room
import Mathlib.Data.List.Nodup

/-!
# Who is in which room

A directory lists the members of each room, and of each connection it is known elsewhere which room
it is in.  `RoomDirectory.Holds` says that the two agree: every connection is listed once in its
room, and nowhere else, and rooms without members are forgotten.

* `Holds.enter`, `Holds.leave`: entering and leaving keep that, and answer how many are in the room
  then.
* `Holds.occurrences_eq`: where a connection is found in the directory.
-/

namespace ChatLobby.RoomDirectory

variable {κ : Type} [DecidableEq κ] {d : RoomDirectory κ} {key other : κ} {room : Room}

/-! ## Rooms by key

A directory is a list of keys with rooms, and a key is looked up from its front.  As long as keys
occur once, it does not matter in which order they stand; that is kept by putting and by forgetting
a room, so that the lookup after either is known. -/

/-- The members of the room of a key; nobody if there is no such room. -/
def membersOf (d : RoomDirectory κ) (key : κ) : List ConnectionId := ((d.find? key).getD {}).members

/-- The keys of the rooms in which a connection is listed, each as often as that is so. -/
def occurrences (d : RoomDirectory κ) (i : ConnectionId) : List κ :=
  d.rooms.flatMap fun entry => List.replicate (entry.2.members.count i) entry.1

theorem find?_eq_none_iff : d.find? key = none ↔ key ∉ d.rooms.map (·.1) := by
  rw [find?, List.lookup_eq_none_iff, List.mem_map]
  simp only [bne_iff_ne, not_exists, not_and, ne_eq]
  exact ⟨fun h entry hentry heq => h entry hentry heq.symm,
    fun h entry hentry heq => h entry hentry heq.symm⟩

theorem mem_of_find? (h : d.find? key = some room) : (key, room) ∈ d.rooms := by
  obtain ⟨before, after, heq, -⟩ := List.lookup_eq_some_iff.mp h
  rw [heq]
  exact List.mem_append_right _ List.mem_cons_self

/-- Where keys occur once, whatever is listed is found. -/
theorem find?_of_mem (hkeys : (d.rooms.map (·.1)).Nodup) (h : (key, room) ∈ d.rooms) :
    d.find? key = some room := by
  obtain ⟨before, after, heq⟩ := List.append_of_mem h
  refine List.lookup_eq_some_iff.mpr ⟨before, after, heq, fun entry hentry => ?_⟩
  rw [heq, List.map_append, List.nodup_append] at hkeys
  have hne := hkeys.2.2 entry.1 (List.mem_map_of_mem hentry) key List.mem_cons_self
  exact bne_iff_ne.mpr hne.symm

/-- To replace the room of a key wherever it stands changes what is found under that key. -/
theorem lookup_map_replace (rooms : List (κ × Room)) (key : κ) (room : Room) (other : κ) :
    (rooms.map fun entry => if entry.1 = key then (key, room) else entry).lookup other =
      if other = key then (rooms.lookup key).map fun _ => room else rooms.lookup other := by
  induction rooms with
  | nil => simp
  | cons entry rooms ih =>
    rw [List.map_cons, List.lookup_cons, ih]
    grind

/-- A room is found where it was put, and elsewhere what was there before. -/
theorem find?_put (d : RoomDirectory κ) (key : κ) (room : Room) (other : κ) :
    (d.put key room).find? other = if other = key then some room else d.find? other := by
  rw [find?, put]
  dsimp only
  cases h : d.find? key with
  | none =>
    rw [find?] at h
    rw [if_neg (by simp), List.lookup_append]
    grind [find?]
  | some before =>
    rw [find?] at h
    rw [if_pos (by simp), lookup_map_replace, h]
    rfl

theorem find?_forget (d : RoomDirectory κ) (key other : κ) :
    (d.forget key).find? other = if other = key then none else d.find? other := by
  rw [find?, forget, find?]
  induction d.rooms with
  | nil => simp
  | cons entry rooms ih => grind

/-- Putting a room where there is one leaves the keys as they are, and else adds one. -/
theorem keys_put (d : RoomDirectory κ) (key : κ) (room : Room) :
    (d.put key room).rooms.map (·.1) =
      if (d.find? key).isSome then d.rooms.map (·.1) else d.rooms.map (·.1) ++ [key] := by
  rw [put]
  split
  · rw [List.map_map]
    refine List.map_congr_left fun entry _ => ?_
    dsimp only [Function.comp]
    split
    · next h => exact h.symm
    · rfl
  · rw [List.map_append]
    rfl

theorem nodup_keys_put (hkeys : (d.rooms.map (·.1)).Nodup) (room : Room) :
    ((d.put key room).rooms.map (·.1)).Nodup := by
  rw [keys_put]
  split
  · exact hkeys
  · next h =>
    have hnew : key ∉ d.rooms.map (·.1) := find?_eq_none_iff.mp (Option.not_isSome_iff_eq_none.mp h)
    rw [List.nodup_append]
    refine ⟨hkeys, List.nodup_singleton key, fun a ha b hb hab => ?_⟩
    rw [List.mem_singleton] at hb
    exact hnew (hb ▸ hab ▸ ha)

theorem nodup_keys_forget (hkeys : (d.rooms.map (·.1)).Nodup) (key : κ) :
    ((d.forget key).rooms.map (·.1)).Nodup :=
  hkeys.sublist (List.filter_sublist.map _)

/-! ## A directory that is right

Two things change a directory: a room is put, or it is forgotten.  `Holds.put` and `Holds.forget`
say what has to be so for that to be right, with the other rooms left as they are.  To enter is to
put, and to leave is one or the other. -/

/-- `d.Holds whereIs`: the members of the rooms are, each once, the connections that `whereIs` puts
there, and no room is empty. -/
structure Holds (d : RoomDirectory κ) (whereIs : ConnectionId → Option κ) : Prop where
  nodup_keys : (d.rooms.map (·.1)).Nodup
  nonempty : ∀ entry ∈ d.rooms, entry.2.members ≠ []
  nodup : ∀ key, (d.membersOf key).Nodup
  mem_iff : ∀ key i, i ∈ d.membersOf key ↔ whereIs i = some key

variable {whereIs whereIs' : ConnectionId → Option κ} {i : ConnectionId}

theorem Holds.empty : ({} : RoomDirectory κ).Holds fun _ => none where
  nodup_keys := List.nodup_nil
  nonempty _ h := absurd h List.not_mem_nil
  nodup _ := List.nodup_nil
  mem_iff _ _ := by simp [membersOf, find?]

theorem membersOf_put (d : RoomDirectory κ) (key : κ) (room : Room) (other : κ) :
    (d.put key room).membersOf other = if other = key then room.members else d.membersOf other := by
  rw [membersOf, find?_put]
  split <;> rfl

theorem membersOf_forget (d : RoomDirectory κ) (key other : κ) :
    (d.forget key).membersOf other = if other = key then [] else d.membersOf other := by
  rw [membersOf, find?_forget]
  split <;> rfl

/-- Putting a room is right if it has the members it should, and nobody has come to another one. -/
theorem Holds.put (hd : d.Holds whereIs) (hnodup : room.members.Nodup) (hne : room.members ≠ [])
    (hmem : ∀ j, j ∈ room.members ↔ whereIs' j = some key)
    (hother : ∀ j other, other ≠ key → (whereIs' j = some other ↔ whereIs j = some other)) :
    (d.put key room).Holds whereIs' where
  nodup_keys := nodup_keys_put hd.nodup_keys room
  nonempty entry hentry := by
    have hfind := find?_of_mem (nodup_keys_put hd.nodup_keys room) hentry
    rw [find?_put] at hfind
    split at hfind
    · cases hfind
      exact hne
    · exact hd.nonempty _ (mem_of_find? hfind)
  nodup other := by
    rw [membersOf_put]
    split
    · exact hnodup
    · exact hd.nodup other
  mem_iff other j := by
    rw [membersOf_put]
    split
    · next h => rw [h, hmem]
    · next h => rw [hd.mem_iff, hother j other h]

/-- Forgetting a room is right if nobody is in it. -/
theorem Holds.forget (hd : d.Holds whereIs) (hnone : ∀ j, whereIs' j ≠ some key)
    (hother : ∀ j other, other ≠ key → (whereIs' j = some other ↔ whereIs j = some other)) :
    (d.forget key).Holds whereIs' where
  nodup_keys := nodup_keys_forget hd.nodup_keys key
  nonempty entry hentry := hd.nonempty entry (List.mem_of_mem_filter hentry)
  nodup other := by
    rw [membersOf_forget]
    split
    · exact List.nodup_nil
    · exact hd.nodup other
  mem_iff other j := by
    rw [membersOf_forget]
    split
    · next h =>
      rw [h]
      exact iff_of_false List.not_mem_nil (hnone j)
    · next h => rw [hd.mem_iff, hother j other h]

/-- **Entering keeps the directory right**, for a connection that was in no room. -/
theorem Holds.enter (hd : d.Holds whereIs) (hi : whereIs i = none) (hi' : whereIs' i = some key)
    (hsame : ∀ j, j ≠ i → whereIs' j = whereIs j) :
    (d.enter key i).2.Holds whereIs' ∧
      (d.enter key i).1 = ((d.enter key i).2.membersOf key).length := by
  have hnew : i ∉ d.membersOf key := by
    rw [hd.mem_iff, hi]
    rintro ⟨⟩
  refine ⟨hd.put ?_ ?_ (fun j => ?_) fun j other hne => ?_, ?_⟩
  · show (d.membersOf key ++ [i]).Nodup
    exact (List.perm_append_singleton i _).nodup_iff.mpr (List.nodup_cons.mpr ⟨hnew, hd.nodup key⟩)
  · exact List.append_ne_nil_of_right_ne_nil _ (List.cons_ne_nil i [])
  · -- the newcomer is in the room now, and everyone else is where they were
    show j ∈ d.membersOf key ++ [i] ↔ _
    rw [List.mem_append, List.mem_singleton, hd.mem_iff]
    by_cases hj : j = i
    · rw [hj, hi']
      simp
    · rw [hsame j hj]
      simp [hj]
  · by_cases hj : j = i
    · rw [hj, hi, hi']
      simp [hne.symm]
    · rw [hsame j hj]
  · rw [RoomDirectory.enter, membersOf_put, if_pos rfl]
    rfl

/-- Who is not in a room cannot leave it, and nothing changes. -/
theorem leave_of_notMem (h : i ∉ d.membersOf key) : d.leave key i = (none, d) := by
  have hnone : (d.find? key).bind (·.leave? i) = none := by
    rw [membersOf] at h
    cases hfind : d.find? key with
    | none => rfl
    | some room =>
      rw [hfind, Option.getD_some, ← Room.isSome_leave?, Bool.not_eq_true,
        Option.isSome_eq_false_iff, Option.isNone_iff_eq_none] at h
      exact h
  rw [leave, hnone]

/-- A member leaves with one entry; a room without members is forgotten. -/
theorem leave_of_mem (h : i ∈ d.membersOf key) :
    ∃ room : Room, (i :: room.members).Perm (d.membersOf key) ∧
      d.leave key i = (some room.count, if room.isEmpty then d.forget key else d.put key room) := by
  rw [membersOf] at h ⊢
  cases hfind : d.find? key with
  | none =>
    rw [hfind] at h
    exact absurd h List.not_mem_nil
  | some before =>
    rw [hfind, Option.getD_some] at h
    obtain ⟨room, hleave⟩ := Option.isSome_iff_exists.mp (Room.isSome_leave?.mpr h)
    refine ⟨room, Room.perm_of_leave? hleave, ?_⟩
    rw [leave, hfind, Option.bind_some, hleave]

/-- **Leaving keeps the directory right**, for a connection that was in the room. -/
theorem Holds.leave (hd : d.Holds whereIs) (hi : whereIs i = some key) (hi' : whereIs' i = none)
    (hsame : ∀ j, j ≠ i → whereIs' j = whereIs j) :
    ∃ n d', d.leave key i = (some n, d') ∧ d'.Holds whereIs' ∧ n = (d'.membersOf key).length := by
  obtain ⟨room, hperm, hleave⟩ := leave_of_mem ((hd.mem_iff key i).mpr hi)
  obtain ⟨hout, hnodup⟩ := List.nodup_cons.mp (hperm.nodup_iff.mpr (hd.nodup key))
  have hmem : ∀ j, j ∈ room.members ↔ whereIs' j = some key := by
    intro j
    by_cases hj : j = i
    · rw [hj, hi']
      exact iff_of_false hout (by rintro ⟨⟩)
    · rw [hsame j hj, ← hd.mem_iff, ← hperm.mem_iff, List.mem_cons, or_iff_right hj]
  have hother : ∀ j other, other ≠ key → (whereIs' j = some other ↔ whereIs j = some other) := by
    intro j other hne
    by_cases hj : j = i
    · rw [hj, hi, hi']
      simp [hne.symm]
    · rw [hsame j hj]
  refine ⟨_, _, hleave, ?_⟩
  -- a room without members is forgotten
  by_cases hempty : room.isEmpty = true
  · have hnil : room.members = [] := List.isEmpty_iff.mp hempty
    rw [if_pos hempty]
    refine ⟨hd.forget (fun j h => ?_) hother, ?_⟩
    · rw [← hmem j, hnil] at h
      exact List.not_mem_nil h
    · rw [membersOf_forget, if_pos rfl, Room.count, hnil]
  · rw [if_neg hempty]
    refine ⟨hd.put hnodup (fun hnil => hempty (List.isEmpty_iff.mpr hnil)) hmem hother, ?_⟩
    rw [membersOf_put, if_pos rfl]
    rfl

/-! ## What a right directory says

A directory cannot be asked where a connection is.  But what it says of each room settles that. -/

/-- How many members a room has, seen from a list of all connections. -/
theorem Holds.length_membersOf (hd : d.Holds whereIs) {ids : List ConnectionId} (hids : ids.Nodup)
    (hall : ∀ i, whereIs i = some key → i ∈ ids) :
    (d.membersOf key).length = (ids.filter fun i => whereIs i = some key).length := by
  refine List.Perm.length_eq ((List.perm_ext_iff_of_nodup (hd.nodup key) (hids.filter _)).mpr ?_)
  intro i
  rw [hd.mem_iff, List.mem_filter, decide_eq_true_iff]
  exact ⟨fun h => ⟨hall i h, h⟩, And.right⟩

/-- Nobody is listed twice in a room. -/
theorem Holds.count_eq (hd : d.Holds whereIs) (key : κ) (i : ConnectionId) :
    (d.membersOf key).count i = if whereIs i = some key then 1 else 0 := by
  split
  · next h => exact List.count_eq_one_of_mem (hd.nodup key) ((hd.mem_iff key i).mpr h)
  · next h => exact List.count_eq_zero_of_not_mem fun hmem => h ((hd.mem_iff key i).mp hmem)

/-- **A connection is found in its room, once, and in no other.** -/
theorem Holds.occurrences_eq (hd : d.Holds whereIs) (i : ConnectionId) :
    d.occurrences i = (whereIs i).toList := by
  have hcount : ∀ entry ∈ d.rooms,
      entry.2.members.count i = if whereIs i = some entry.1 then 1 else 0 := by
    intro entry hentry
    rw [← hd.count_eq, membersOf, find?_of_mem hd.nodup_keys hentry]
    rfl
  -- a key is met as often as the connection is listed in its room
  have hkeys : d.occurrences i = (d.rooms.map (·.1)).filter (whereIs i = some ·) := by
    rw [occurrences]
    generalize d.rooms = rooms at hcount
    induction rooms with
    | nil => rfl
    | cons entry rooms ih =>
      rw [List.flatMap_cons, List.map_cons, List.filter_cons, hcount entry List.mem_cons_self,
        ih fun entry hentry => hcount entry (List.mem_cons_of_mem _ hentry)]
      by_cases h : whereIs i = some entry.1 <;> simp [h]
  rw [hkeys]
  cases hwhere : whereIs i with
  | none => simp
  | some key =>
    have hmem : key ∈ d.rooms.map (·.1) := by
      by_contra hout
      have hmember := (hd.mem_iff key i).mpr hwhere
      rw [membersOf, find?_eq_none_iff.mpr hout] at hmember
      exact List.not_mem_nil hmember
    -- keys occur once, so one of them is left
    have hfilter : (d.rooms.map (·.1)).filter (some key = some ·) =
        (d.rooms.map (·.1)).filter (· = key) :=
      List.filter_congr fun other _ => by simp [eq_comm]
    rw [hfilter, List.filter_eq, List.count_eq_one_of_mem hd.nodup_keys hmem]
    rfl

end ChatLobby.RoomDirectory
