import ChatLobby.Proofs.ServerHistory

/-!
# Who is where

Which room a connection is in is kept twice: in its session, and in the directory of the rooms.
Who is connected is kept in the registry besides.  `Hub.Consistent` says that all of them agree.

* `Server.consistent_run`: they agree after every run.
-/

namespace ChatLobby

open History

/-! ## Agreement

What is asked of the hub is said without the history as far as that goes: the history comes in only
where it matters who was ever admitted. -/

/-- `h.Consistent past`: in the hub, which has the history `past`, sessions, rooms and the registry
agree. -/
structure Hub.Consistent (past : History) (h : Hub Lobby Session) : Prop where
  /-- A connection is listed once in the room of its session, and nowhere else. -/
  occurrences_eq : ∀ i, h.shared.rooms.occurrences i =
    ((h.connection? i).bind fun c => c.session.room).toList
  /-- Every key has one room. -/
  nodup_keys : (h.shared.rooms.rooms.map (·.1)).Nodup
  /-- No room is empty. -/
  nonempty : ∀ entry ∈ h.shared.rooms.rooms, entry.2.members ≠ []
  /-- Who is in a room has a name. -/
  named : ∀ i c, h.connection? i = some c → c.session.room.isSome → c.session.name.isSome
  /-- Who is in a room is registered. -/
  registered : ∀ entry ∈ h.shared.rooms.rooms, ∀ i ∈ entry.2.members,
    i ∈ h.shared.registry.ids
  /-- Nobody is registered twice. -/
  nodup_registry : h.shared.registry.ids.Nodup
  /-- Those are registered who were admitted and are not dismissed yet. -/
  mem_registry_iff : ∀ i, i ∈ h.shared.registry.ids ↔ .admitted i ∈ past ∧ .dismissed i ∉ past
  /-- Who has ended or was rejected is in no room. -/
  outside : ∀ i c, h.connection? i = some c → c.phase = .disconnected ∨ .rejected i ∈ past →
    c.session.room = none
  /-- A room has as many members as there are live sessions that are in it. -/
  roomMembers_eq : ∀ room, h.shared.roomMembers room =
    h.connections.countP fun c => c.phase ≠ .disconnected ∧ c.session.room = some room

namespace History.Possible

variable {p : FramePolicy} {past : History} {i : ConnectionId}

/-! ## From the history

By `Hub.Follows` each of the places where a room is kept is what the history tells.  So none of them
is compared with another: two that agree with the history agree. -/

/-- Nobody is both admitted and rejected. -/
theorem not_rejected (hp : Possible p past) (h : .admitted i ∈ past) : .rejected i ∉ past := by
  -- -- the later of the two would not have been allowed
  induction hp with
  | nil => exact absurd h List.not_mem_nil
  | @cons past e _ hallows ih =>
    intro hrejected
    rcases List.mem_cons.mp h with rfl | hbefore
    · rcases List.mem_cons.mp hrejected with heq | hrejected
      · cases heq
      · exact hallows.2.2.1 hrejected
    · rcases List.mem_cons.mp hrejected with rfl | hrejected
      · exact hallows.2.1 hbefore
      · exact ih hbefore hrejected

end History.Possible

namespace Hub.Follows

variable {p : FramePolicy} {past : History} {h : Hub Lobby Session} {i : ConnectionId}
  {c : Connection Session} {room : String}

/-- A session is in the room that the history tells. -/
theorem room_eq (hf : h.Follows p past) (hc : h.connection? i = some c) :
    c.session.room = roomOf i past :=
  congrArg Session.room (hf.tracks i c hc).session_eq

/-- The room of a connection, which is in none before it arrives. -/
theorem bind_room (hf : h.Follows p past) (i : ConnectionId) :
    ((h.connection? i).bind fun c => c.session.room) = roomOf i past := by
  cases hc : h.connection? i with
  | some c => exact hf.room_eq hc
  | none =>
    have hout : h.connections.length ≤ i.index := List.getElem?_eq_none_iff.mp hc
    rw [hf.length_eq] at hout
    exact (congrArg Session.room (hf.possible.sessionOf_fresh hout)).symm

/-- The rooms of all sessions, in the order in which they arrived. -/
theorem map_room (hf : h.Follows p past) :
    (h.connections.map fun c => c.session.room) =
      (ConnectionId.firstIds past.arrivals).map fun i => roomOf i past := by
  refine List.ext_getElem? fun k => ?_
  rw [List.getElem?_map, ConnectionId.firstIds, List.map_map, List.getElem?_map]
  -- -- connections and identifiers are listed alike, and there is nothing beyond them
  by_cases hk : k < past.arrivals
  · obtain ⟨c, hc⟩ := exists_connection? (h := h) (i := ⟨k⟩) (by rw [hf.length_eq]; exact hk)
    rw [show h.connections[k]? = some c from hc, List.getElem?_range hk]
    exact congrArg some (hf.room_eq hc)
  · have hnone : h.connections[k]? = none := by
      rw [List.getElem?_eq_none_iff, hf.length_eq]
      omega
    rw [hnone, List.getElem?_eq_none (by simp; omega)]
    rfl

/-- The directory counts those whom the history has in a room. -/
theorem roomMembers_eq (hf : h.Follows p past) (room : String) :
    h.shared.roomMembers room = population room past := by
  have hmembers : h.shared.roomMembers room = (h.shared.rooms.membersOf room).length := by
    rw [Lobby.roomMembers, RoomDirectory.membersOf]
    cases h.shared.rooms.find? room <;> rfl
  rw [hmembers]
  exact length_membersOf_eq hf.rooms fun j hj => hf.possible.index_lt_of_room hj

/-- Who has ended was dismissed, and who was rejected was never admitted: neither is in a room. -/
theorem outside (hf : h.Follows p past) (hc : h.connection? i = some c)
    (hout : c.phase = .disconnected ∨ .rejected i ∈ past) : c.session.room = none := by
  rw [hf.room_eq hc]
  cases hroom : roomOf i past with
  | none => rfl
  | some room =>
    obtain ⟨hadmitted, hdismissed⟩ := hf.possible.admitted_of_room hroom
    rcases hout with hover | hrejected
    · exact absurd ((hf.tracks i c hc).disconnected_iff.mp hover) hdismissed
    · exact absurd hrejected (hf.possible.not_rejected hadmitted)

/-- The live sessions of a room are those whom the history has in it. -/
theorem countP_room (hf : h.Follows p past) (room : String) :
    (h.connections.countP fun c => c.phase ≠ .disconnected ∧ c.session.room = some room) =
      population room past := by
  -- whoever has ended is in no room, so only live sessions are counted
  have hlive : (h.connections.countP fun c =>
      c.phase ≠ .disconnected ∧ c.session.room = some room) =
        h.connections.countP fun c => c.session.room = some room := by
    refine List.countP_congr fun c hmem => ?_
    obtain ⟨k, hk⟩ := List.mem_iff_getElem?.mp hmem
    have hc : h.connection? ⟨k⟩ = some c := hk
    simp only [decide_eq_true_iff, and_iff_right_iff_imp]
    intro hroom hover
    rw [hf.outside hc (.inl hover)] at hroom
    cases hroom
  have hmap := congrArg (List.countP fun r => decide (r = some room)) hf.map_room
  rw [List.countP_map, List.countP_map] at hmap
  rw [hlive, population, members, ← List.countP_eq_length_filter]
  exact hmap

/-- What a connection accepted is what its history tells, written as packets are. -/
theorem map_encode_sentTo (hf : h.Follows p past)
    (hfits : p.headerLength + ServerPacket.longestPresence ≤ p.maxFrame)
    (hc : h.connection? i = some c) :
    (sentTo i past).map (·.encode p) = c.accepted.map .ok := by
  rw [(hf.tracks i c hc).accepted_eq]
  apply ServerPacket.map_encode_eq
  intro packet hmem
  exact hf.possible.exists_encode_of_mem_sentTo hfits hmem

/-- A hub that follows its history is consistent. -/
theorem consistent (hf : h.Follows p past) : h.Consistent past where
  occurrences_eq i := by rw [hf.rooms.occurrences_eq, hf.bind_room]
  nodup_keys := hf.rooms.nodup_keys
  nonempty := hf.rooms.nonempty
  named i c hc hroom := by
    rw [hf.room_eq hc] at hroom
    obtain ⟨room, hroom⟩ := Option.isSome_iff_exists.mp hroom
    rw [(hf.tracks i c hc).session_eq]
    exact isSome_nameOf hroom
  registered entry hentry i hi := by
    have hmem : i ∈ h.shared.rooms.membersOf entry.1 := by
      rw [RoomDirectory.membersOf, RoomDirectory.find?_of_mem hf.rooms.nodup_keys hentry]
      exact hi
    rw [hf.rooms.mem_iff] at hmem
    exact (hf.mem_registry_iff i).mpr (hf.possible.admitted_of_room hmem)
  nodup_registry := hf.nodup_registry
  mem_registry_iff := hf.mem_registry_iff
  outside i c hc hout := hf.outside hc hout
  roomMembers_eq room := by rw [hf.roomMembers_eq, hf.countP_room]

end Hub.Follows

/-- **Sessions, rooms and the registry agree**, whatever clients do in whatever order: after every
run, each connection is listed once in the room of its session and nowhere else, rooms are not
empty, and those are registered who were admitted and are not dismissed yet.  So whoever has ended
or was rejected is in no room, and each room has as many members as there are live sessions in it.
They agree as well when a connection has failed and the lobby is not told of its end yet. -/
theorem Server.consistent_run (address : SocketAddress) (sizing : ReceiveSizing) (capacity : Nat)
    (policy : FramePolicy) (moves : List Server.Move) :
    let server := (opened address sizing capacity policy).run moves
    let past := (opened address sizing capacity policy).history moves
    server.hub.Consistent past ∧
      ∀ i c progress pace, server.hub.connection? i = some c → c.MayDo progress →
        ∃ (h : Hub Lobby Session) (end? : Option DisconnectReason),
          server.hub.advance server.handler pace i progress = h.conclude server.handler i end? ∧
            h.Consistent ((server.hub.happenings i c pace progress).reverse ++ past) := by
  have hf := follows_history address sizing capacity policy moves
  refine ⟨hf.consistent, fun i c progress pace hc hmay => ?_⟩
  obtain ⟨h, heq, hf', -⟩ := hf.advance_eq hc hmay pace
  rw [handler_eq hf]
  exact ⟨h, _, heq, hf'.consistent⟩

end ChatLobby
