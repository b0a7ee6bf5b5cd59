import ChatLobby.Proofs.Membership

/-!
# How many are there

Whenever a room has a new number of members, all who are in it then and are connected are told, and
nobody else is.  So the last number that the client of a session was told for its room is right.

* `Server.presence_accurate`: presences, over every run.
-/

namespace ChatLobby

open History

namespace ServerPacket

/-! ## What packets tell -/

/-- Whether a packet is a presence. -/
def isPresence : ServerPacket → Bool
  | presence .. => true
  | chatRelay .. => false

/-- The number of members that a packet tells for a room, if it does. -/
def countIn (room : String) : ServerPacket → Option UInt32
  | presence other members => if other = room then some members else none
  | chatRelay .. => none

/-- The number of members that was told last for a room. -/
def lastCount (room : String) (packets : List ServerPacket) : Option UInt32 :=
  (packets.filterMap (countIn room)).getLast?

theorem lastCount_append (room : String) (packets more : List ServerPacket) :
    lastCount room (packets ++ more) = (lastCount room more).or (lastCount room packets) := by
  rw [lastCount, List.filterMap_append, List.getLast?_append]
  rfl

end ServerPacket

open ServerPacket

namespace History

variable {p : FramePolicy} {past now : History} {e : Happening} {i j : ConnectionId}
  {room other : String}

/-! ## Changes of membership

What is due when something happens is spelled out in the history, packet by packet.  Here it is said
again by rooms and their changes, and the two are shown to be the same presences. -/

/-- The rooms that have a new number of members by what happens, each with the history up to the
change.  To enter a room is to leave the room before, which is a change of that room, and then to
enter. -/
def changes : Happening → History → List (String × History)
  | .handled i (.enter room name), past =>
    (roomOf i past).toList.map (·, .handled i .leave :: past) ++
      [(room, .handled i (.enter room name) :: past)]
  | .handled i .leave, past | .dismissed i, past =>
    (roomOf i past).toList.map (·, .handled i .leave :: past)
  | .handled _ (.chat _), _ | .arrived, _ | .admitted _, _ | .rejected _, _ | .asked _, _ => []

/-- The presences that connection `j` was sent so far: one for each change of the room that it was
in right after the change, while it was connected. -/
def presencesTo (j : ConnectionId) : History → List ServerPacket
  | [] => []
  | e :: past =>
    presencesTo j past ++
      if IsConnected j past then
        (changes e past).flatMap fun change => announced change.1 change.2 j
      else []

theorem filter_isPresence_announced :
    (announced room now j).filter isPresence = announced room now j := by
  rw [announced]
  split <;> rfl

/-- Whoever leaves is announced in the room that is left. -/
theorem filter_isPresence_onLeaving :
    (onLeaving i past j).filter isPresence =
      ((roomOf i past).toList.map (·, .handled i .leave :: past)).flatMap
        fun change => announced change.1 change.2 j := by
  rw [onLeaving]
  cases roomOf i past with
  | none => rfl
  | some room => simp [filter_isPresence_announced]

/-- What is due are presences for the changes, and what someone says. -/
theorem filter_isPresence_due : (due j e past).filter isPresence =
    (changes e past).flatMap fun change => announced change.1 change.2 j := by
  cases e with
  | handled i packet =>
    cases packet with
    | enter room name =>
      rw [due, changes, List.filter_append, filter_isPresence_onLeaving,
        filter_isPresence_announced, List.flatMap_append]
      simp
    | leave => exact filter_isPresence_onLeaving
    | chat text =>
      rw [due, changes, List.flatMap_nil, List.filter_eq_nil_iff]
      intro sent hsent
      obtain ⟨_, _, _, _, _, _, rfl⟩ := mem_onTalking hsent
      simp [isPresence]
  | dismissed i => exact filter_isPresence_onLeaving
  | arrived | admitted i | rejected i | asked i => rfl

/-- The presences among what a connection was sent are those for the changes of its room. -/
theorem filter_isPresence_sentTo (j : ConnectionId) (past : History) :
    (sentTo j past).filter isPresence = presencesTo j past := by
  induction past with
  | nil => rfl
  | cons e past ih =>
    rw [sentTo, presencesTo, List.filter_append, ih]
    split
    · rw [filter_isPresence_due]
    · rfl

/-! ## The last presence

A number that was right stays right until its room changes, and when its room changes, it is told
anew.  The induction is on the history, and its step asks what was due to a connection that stayed
in its room. -/

/-- The number of members of a room, as packets carry it. -/
def countOf (room : String) (past : History) : UInt32 := Lobby.memberCount (population room past)

/-- The number is that of those who are in the room, whatever else happened. -/
theorem countOf_congr (harrivals : now.arrivals = past.arrivals)
    (h : ∀ i, roomOf i now = some room ↔ roomOf i past = some room) :
    countOf room now = countOf room past := by
  rw [countOf, countOf, population_congr harrivals h]

/-- To enter another room is to leave, as far as the members of a room go. -/
theorem countOf_enter_of_ne {entered name : String} (h : entered ≠ room) :
    countOf room (.handled i (.enter entered name) :: past) =
      countOf room (.handled i .leave :: past) := by
  apply countOf_congr
  · rw [arrivals_cons_of_ne (by rintro ⟨⟩), arrivals_cons_of_ne (by rintro ⟨⟩)]
  · intro k
    by_cases hk : k = i
    · subst hk
      simp [roomOf, h]
    · rw [roomOf_handled_of_ne hk, roomOf_handled_of_ne hk]

/-- Who is in the room that is announced is told its number. -/
theorem lastCount_announced_self (h : roomOf j now = some room) :
    lastCount room (announced room now j) = some (countOf room now) := by
  simp [announced, h, lastCount, countIn, countOf]

theorem lastCount_announced_of_ne (h : roomOf j now ≠ some other) :
    lastCount room (announced other now j) = none := by
  rw [announced, if_neg h]
  rfl

/-- What someone says tells no number. -/
theorem lastCount_onTalking {text : String} : lastCount room (onTalking i text past j) = none := by
  have hnothing : (onTalking i text past j).filterMap (countIn room) = [] := by
    apply List.filterMap_eq_nil_iff.mpr
    intro sent hsent
    obtain ⟨_, _, _, _, _, _, rfl⟩ := mem_onTalking hsent
    rfl
  rw [lastCount, hnothing]
  rfl

/-- If the last presence was right before a connection left its room, it is right after. -/
theorem lastCount_onLeaving (hne : j ≠ i) (hj : roomOf j past = some room) :
    (lastCount room (onLeaving i past j)).or (some (countOf room past)) =
      some (countOf room (.handled i .leave :: past)) := by
  have hstays : roomOf j (.handled i .leave :: past) = some room := by
    rw [roomOf_handled_of_ne hne, hj]
  -- the room that is left may be another one
  have hsame : roomOf i past ≠ some room →
      countOf room (.handled i .leave :: past) = countOf room past := by
    intro hother
    apply countOf_congr (arrivals_cons_of_ne (by rintro ⟨⟩))
    intro k
    by_cases hk : k = i
    · subst hk
      rw [roomOf_leave]
      exact iff_of_false (by rintro ⟨⟩) hother
    · rw [roomOf_handled_of_ne hk]
  rw [onLeaving]
  cases hi : roomOf i past with
  | none =>
    rw [hsame (by rw [hi]; rintro ⟨⟩)]
    rfl
  | some left =>
    dsimp only
    by_cases hleft : left = room
    · subst hleft
      rw [lastCount_announced_self hstays]
      rfl
    · rw [hsame (by rw [hi]; simpa using hleft), lastCount_announced_of_ne]
      · rfl
      · rw [hstays]
        simpa [eq_comm] using hleft

/-- If the last presence for the room of a connection was right before something happens, and the
connection stays in that room, then it is right after. -/
theorem lastCount_due (hp : Possible p past) (hbefore : roomOf j past = some room)
    (hafter : roomOf j (e :: past) = some room) :
    (lastCount room (due j e past)).or (some (countOf room past)) =
      some (countOf room (e :: past)) := by
  cases e with
  | arrived =>
    rw [countOf, countOf, population_arrived hp]
    rfl
  | admitted i | rejected i | asked i =>
    rw [countOf_congr (arrivals_cons_of_ne (by rintro ⟨⟩)) fun _ => Iff.rfl]
    rfl
  | dismissed i =>
    have hne : j ≠ i := by
      rintro rfl
      rw [roomOf_dismissed] at hafter
      cases hafter
    refine (lastCount_onLeaving hne hbefore).trans (congrArg some ?_)
    -- as far as rooms go, to be dismissed is to leave
    apply countOf_congr
    · rw [arrivals_cons_of_ne (by rintro ⟨⟩), arrivals_cons_of_ne (by rintro ⟨⟩)]
    · intro k
      exact Iff.rfl
  | handled i packet =>
    cases packet with
    | chat text =>
      rw [due, lastCount_onTalking, countOf_congr (arrivals_cons_of_ne (by rintro ⟨⟩)) fun _ => Iff.rfl]
      rfl
    | leave =>
      have hne : j ≠ i := by
        rintro rfl
        rw [roomOf_leave] at hafter
        cases hafter
      exact lastCount_onLeaving hne hbefore
    | enter entered name =>
      rw [due, lastCount_append]
      by_cases hentered : entered = room
      · -- the last word is the presence for the room that was entered
        subst hentered
        rw [lastCount_announced_self hafter]
        rfl
      · have hne : j ≠ i := by
          rintro rfl
          simp only [roomOf, if_true, Option.some.injEq] at hafter
          exact hentered hafter
        have hquiet : lastCount room
            (announced entered (.handled i (.enter entered name) :: past) j) = none := by
          apply lastCount_announced_of_ne
          rw [hafter]
          simpa [eq_comm] using hentered
        rw [hquiet, Option.none_or, lastCount_onLeaving hne hbefore, countOf_enter_of_ne hentered]

/-- **The last presence is right**: whoever is connected and in a room was told last how many are in
it now. -/
theorem Possible.lastCount_sentTo (hp : Possible p past) (hconnected : past.IsConnected j)
    (hroom : roomOf j past = some room) :
    lastCount room (sentTo j past) = some (countOf room past) := by
  induction hp with
  | nil => cases hroom
  | @cons past e hp hallows ih =>
    -- -- who is in a room now has arrived before, as nobody arrives in a room
    have harrived : j.index < past.arrivals := by
      rcases roomOf_cons_eq_some hroom with ⟨name, rfl⟩ | ⟨hbefore, -⟩
      · exact hallows.2.1.1
      · exact hp.index_lt_of_room hbefore
    obtain ⟨hbefore, -⟩ := (isConnected_cons_iff harrived).mp hconnected
    rw [sentTo, if_pos hbefore, lastCount_append]
    rcases roomOf_cons_eq_some hroom with ⟨name, rfl⟩ | ⟨hstayed, -⟩
    · -- the last word is the presence for the room that was just entered
      rw [due, lastCount_append, lastCount_announced_self hroom]
      rfl
    · rw [ih hbefore hstayed]
      exact lastCount_due hp hstayed hroom

end History

namespace Server

/-! ## Servers -/

/-- **Everyone who is there knows how many are there**, where every presence makes a frame (with a
prefix of two bytes, 42 bytes will do).  After every run, rooms have as many members as the history
tells, and a connection accepted exactly one presence for each change of the room that it was in
right after the change.  So whenever nothing is left to do for a session that goes on, the last
number that its client read for its room is the number of members. -/
theorem presence_accurate (address : SocketAddress) (sizing : ReceiveSizing) (capacity : Nat)
    (p : FramePolicy) (moves : List Move)
    (hfits : p.headerLength + ServerPacket.longestPresence ≤ p.maxFrame) :
    let server := (opened address sizing capacity p).run moves
    let past := (opened address sizing capacity p).history moves
    (∀ room, server.lobby.roomMembers room = population room past) ∧
      ∀ i c, server.hub.connection? i = some c →
        c.session.room = roomOf i past ∧ (c.phase = .connected ↔ past.IsConnected i) ∧
        (∃ packets : List ServerPacket, packets.map (·.encode p) = c.accepted.map .ok ∧
          packets.filter isPresence = presencesTo i past) ∧
        ∀ room q, c.phase = .connected → c.next? = none → c.session.room = some room →
          q.Reads p → lastCount room (readAll q c.socket.delivered) =
            some (Lobby.memberCount (server.lobby.roomMembers room)) := by
  have hf := follows_history address sizing capacity p moves
  refine ⟨hf.roomMembers_eq, fun i c hc => ?_⟩
  have htracks := hf.tracks i c hc
  refine ⟨hf.room_eq hc, htracks.connected_iff, ?_, ?_⟩
  · exact ⟨_, hf.map_encode_sentTo hfits hc, filter_isPresence_sentTo i _⟩
  · intro room q hphase hquiet hroom hq
    rw [hf.room_eq hc] at hroom
    rw [readAll_delivered hfits hq hc hphase hquiet,
      hf.possible.lastCount_sentTo (htracks.connected_iff.mp hphase) hroom]
    exact congrArg some (congrArg Lobby.memberCount (hf.roomMembers_eq room).symm)

/-- The first of two clients that are in one room knows it, with the shortest frames that will do.
-/
theorem presence_accurate_meeting :
    ∃ c, ((opened ⟨.v4 ⟨127, 0, 0, 1⟩, 0⟩ ⟨64, 16⟩ 2 { maxFrame := 42 }).run meeting).hub.connection?
      ⟨0⟩ = some c ∧ lastCount "den" (readAll {} c.socket.delivered) = some 2 := by
  have hmeeting := presence_accurate ⟨.v4 ⟨127, 0, 0, 1⟩, 0⟩ ⟨64, 16⟩ 2 { maxFrame := 42 } meeting
    (by decide)
  have hstate : ((((opened ⟨.v4 ⟨127, 0, 0, 1⟩, 0⟩ ⟨64, 16⟩ 2 { maxFrame := 42 }).run
      meeting).hub.connection? ⟨0⟩).map fun c => (c.phase, c.next?, c.session.room)) =
        some (.connected, none, some "den") := by decide +kernel
  obtain ⟨c, hc, hstate⟩ := Option.map_eq_some_iff.mp hstate
  injection hstate with hphase hrest
  injection hrest with hquiet hroom
  refine ⟨c, hc, ?_⟩
  obtain ⟨-, -, -, hlast⟩ := hmeeting.2 ⟨0⟩ c hc
  rw [hlast "den" {} hphase hquiet hroom ⟨rfl, rfl, by decide, by decide⟩]
  decide +kernel

end Server

end ChatLobby
