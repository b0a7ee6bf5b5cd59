import ChatLobby.Proofs.Calling
import ChatLobby.Proofs.Directory
import ChatLobby.Proofs.History

/-!
# What the lobby does with its callbacks

Each callback of the lobby is run to its end here, in a hub whose rooms are as its history says
(`RoomDirectory.Holds`).  What comes out is the answer, the session, the rooms, and for every
connection what it is sent, which is what `History.due` says.

* `Hub.call_handle`: a packet is handled.
* `Hub.call_dismiss`: a connection is dismissed.
-/

namespace ChatLobby

open History

/-! ## Broadcasts

In a lobby nobody is in a room twice, and what a directory says is what the history says.  So a
broadcast can be told by where connections are, and rooms no longer show in it. -/

namespace RoomDirectory

variable {σ τ κ : Type} [DecidableEq κ] {d : RoomDirectory κ} {whereIs : ConnectionId → Option κ}

/-- **A broadcast is received once by each member** of the room but the one that is left out. -/
theorem Holds.act_broadcast (hd : d.Holds whereIs) (h : Hub σ τ) (key : κ) (data : Bytes)
    (except : Option ConnectionId) :
    (h.act (discard (d.broadcast key data except))).2 =
      h.tell fun j => if whereIs j = some key ∧ some j ≠ except then [data] else [] := by
  have hsent : (h.act (d.broadcast key data except)).2 =
      h.tell fun j =>
        List.replicate (((d.membersOf key).filter fun i => some i ≠ except).count j) data := by
    rw [RoomDirectory.broadcast, membersOf]
    cases d.find? key with
    | none => exact (h.tell_nil).symm
    | some room => exact h.act_broadcast room data except
  -- members are listed once each
  have hcount : ∀ j, ((d.membersOf key).filter fun i => some i ≠ except).count j =
      if whereIs j = some key ∧ some j ≠ except then 1 else 0 := by
    intro j
    by_cases hj : some j ≠ except
    · rw [List.count_filter (by simpa using hj), hd.count_eq]
      simp [hj]
    · rw [if_neg fun h => hj h.2]
      apply List.count_eq_zero_of_not_mem
      intro hmem
      exact hj (by simpa using (List.mem_filter.mp hmem).2)
  rw [h.act_discard, hsent]
  congr 1
  funext j
  rw [hcount]
  split <;> rfl

end RoomDirectory

namespace Hub

variable {h h' : Hub Lobby Session} {l : Lobby} {p : FramePolicy} {past now : History}
  {i : ConnectionId} {c : Connection Session} {room : String}

/-- Send every connection the frames of the packets that are due to it. -/
def inform (h : Hub Lobby Session) (due : ConnectionId → List ServerPacket) : Hub Lobby Session :=
  h.tell fun j => ServerPacket.frames h.shared.policy (due j)

/-- The hub with other rooms in its lobby. -/
def withRooms (h : Hub Lobby Session) (rooms : RoomDirectory String) : Hub Lobby Session :=
  { h with shared := { h.shared with rooms } }

theorem inform_nil (h : Hub Lobby Session) : (h.inform fun _ => []) = h := h.tell_nil

/-- What is due first comes first. -/
theorem inform_inform (h : Hub Lobby Session) (due more : ConnectionId → List ServerPacket) :
    (h.inform due).inform more = h.inform fun j => due j ++ more j := by
  refine (h.tell_tell _ _).trans ?_
  rw [inform]
  congr 1
  funext j
  exact (ServerPacket.frames_append ..).symm

theorem connection?_inform (hc : h.connection? i = some c)
    (due : ConnectionId → List ServerPacket) :
    (h.inform due).connection? i =
      some (c.sendAll (ServerPacket.frames h.shared.policy (due i))) := by
  rw [inform, connection?_tell, hc]
  rfl

theorem exists_connection?_inform (hc : h.connection? i = some c) (rooms : RoomDirectory String)
    (due : ConnectionId → List ServerPacket) :
    ∃ d, ((h.withRooms rooms).inform due).connection? i = some d := by
  have hc' : (h.withRooms rooms).connection? i = some c := hc
  exact ⟨_, connection?_inform hc' due⟩

/-- A room has as many members as the history says. -/
theorem length_membersOf_eq {d : RoomDirectory String} (hd : d.Holds fun j => roomOf j now)
    (harrived : ∀ j, roomOf j now = some room → j.index < now.arrivals) :
    (d.membersOf room).length = population room now := by
  refine hd.length_membersOf (List.Nodup.map ?_ List.nodup_range) fun j hj => ?_
  · intro a b hab
    injection hab
  · exact List.mem_map.mpr ⟨j.index, List.mem_range.mpr (harrived j hj), rfl⟩

/-- **The new number of members is told to all of them**, as every presence makes a frame. -/
theorem act_announce (hd : h.shared.rooms.Holds fun j => roomOf j now) (room : String) :
    (h.act (h.shared.announce room (population room now))).2 = h.inform (announced room now) := by
  rw [Lobby.announce, inform]
  cases hencode : (ServerPacket.presence room (Lobby.memberCount (population room now))).encode
      h.shared.policy with
  | ok data =>
    refine (hd.act_broadcast h room data none).trans ?_
    congr 1
    funext j
    by_cases hj : roomOf j now = some room
    · simp [announced, hj, ServerPacket.frames, hencode, Except.toOption]
    · simp [announced, hj, ServerPacket.frames]
  | error cause =>
    refine (h.tell_nil).symm.trans ?_
    congr 1
    funext j
    by_cases hj : roomOf j now = some room
    · simp [announced, hj, ServerPacket.frames, hencode, Except.toOption]
    · simp [announced, hj, ServerPacket.frames]

/-! ## Rooms

To leave a room and to enter one are the two things that change the directory.  Each takes the rooms
out of the shared state, changes them, puts them back and announces the new number. -/

/-- The rooms change, and the new number of members is announced in one of them. -/
theorem call_announce {rooms : RoomDirectory String} {n : Nat} (hc : h.connection? i = some c)
    (hd : rooms.Holds fun j => roomOf j now) (hn : n = population room now) :
    h.call i (do
        Callback.setShared { h.shared with rooms }
        Callback.perform (({ h.shared with rooms } : Lobby).announce room n)) =
      (some (), (h.withRooms rooms).inform (announced room now)) := by
  have hc' : (h.withRooms rooms).connection? i = some c := hc
  rw [call_bind_of_some (call_setShared hc _), ← withRooms, call_perform hc', hn]
  exact congrArg (Prod.mk (some ())) (act_announce (h := h.withRooms rooms) hd room)

/-- **A connection that leaves its room** is taken out of it, and the others are told. -/
theorem call_leave? (hc : h.connection? i = some c) (hp : Possible p past)
    (hd : h.shared.rooms.Holds fun j => roomOf j past) :
    ∃ rooms, h.call i (Lobby.leave? (roomOf i past) i) =
        (some (), (h.withRooms rooms).inform (onLeaving i past)) ∧
      rooms.Holds fun j => roomOf j (.handled i .leave :: past) := by
  have hsame : ∀ j, j ≠ i → roomOf j (.handled i .leave :: past) = roomOf j past :=
    fun j hj => roomOf_handled_of_ne hj .leave past
  cases hroom : roomOf i past with
  | none =>
    -- whoever is in no room leaves none
    have hnothing : onLeaving i past = fun _ => [] := by
      funext j
      simp [onLeaving, hroom]
    have hstays : (fun j => roomOf j (.handled i .leave :: past)) = fun j => roomOf j past := by
      funext j
      by_cases hj : j = i
      · rw [hj, roomOf_leave, hroom]
      · exact hsame j hj
    refine ⟨h.shared.rooms, ?_, hstays ▸ hd⟩
    rw [hnothing, inform_nil]
    exact call_pure hc ()
  | some room =>
    obtain ⟨n, rooms, hleave, hd', hn⟩ := hd.leave hroom (roomOf_leave i past) hsame
    have hcount : n = population room (.handled i .leave :: past) := by
      -- the members were counted by the directory, and the history counts them among those who have
      -- arrived
      refine hn.trans (length_membersOf_eq hd' fun j hj => ?_)
      rcases roomOf_cons_eq_some hj with ⟨name, heq⟩ | ⟨hbefore, -⟩
      · injection heq with _ heq
        cases heq
      · exact hp.index_lt_of_room hbefore
    have htold : onLeaving i past = announced room (.handled i .leave :: past) := by
      funext j
      rw [onLeaving, hroom]
    refine ⟨rooms, ?_, hd'⟩
    rw [htold, Lobby.leave?, Lobby.leave, call_bind_of_some (call_shared hc)]
    simp only [hleave]
    exact call_announce hc hd' hcount

/-- **A connection that enters a room** is put into it, and all who are in it then are told. -/
theorem call_enter {name : String} (hc : h.connection? i = some c)
    (hp : Possible p (.handled i (.enter room name) :: past))
    (hd : h.shared.rooms.Holds fun j => roomOf j (.handled i .leave :: past)) :
    ∃ rooms, h.call i (Lobby.enter room i) =
        (some (), (h.withRooms rooms).inform
          (announced room (.handled i (.enter room name) :: past))) ∧
      rooms.Holds fun j => roomOf j (.handled i (.enter room name) :: past) := by
  have hsame : ∀ j, j ≠ i → roomOf j (.handled i (.enter room name) :: past) =
      roomOf j (.handled i .leave :: past) := by
    intro j hj
    simp [roomOf, hj.symm]
  have hentered : roomOf i (.handled i (.enter room name) :: past) = some room := if_pos rfl
  obtain ⟨hd', hn⟩ := hd.enter (roomOf_leave i past) hentered hsame
  have hcount := hn.trans (length_membersOf_eq hd' fun j hj => hp.index_lt_of_room hj)
  refine ⟨_, ?_, hd'⟩
  rw [Lobby.enter, call_bind_of_some (call_shared hc)]
  exact call_announce hc hd' hcount

/-! ## Packets

A packet is handled in several pieces, and the hub is known between any two of them.  That is what
the names `hc₁`, `hc₂` and so on are about: the connection in the hub as it is then. -/

/-- What is said goes to the others in the room. -/
theorem act_relay {text speaker : String} {data : Bytes}
    (hd : h.shared.rooms.Holds fun j => roomOf j past) (hroom : roomOf i past = some room)
    (hspeaker : nameOf i past = some speaker)
    (hencode : (ServerPacket.chatRelay speaker text).encode h.shared.policy = .ok data) :
    (h.act (discard (h.shared.rooms.broadcast room data (some i)))).2 =
      h.inform (onTalking i text past) := by
  refine (hd.act_broadcast h room data (some i)).trans ?_
  rw [inform]
  congr 1
  funext j
  by_cases hj : j ≠ i ∧ roomOf j past = some room
  · simp [onTalking, hroom, hspeaker, hj, ServerPacket.frames, hencode, Except.toOption]
  · rw [if_neg fun h => hj ⟨by simpa using h.2, h.1⟩]
    simp [onTalking, hroom, hspeaker, hj, ServerPacket.frames]

/-- **Something is said**: outside of any room it is lost. -/
theorem call_chat {text : String} (hc : h.connection? i = some c)
    (hsession : c.session = sessionOf i past)
    (haccepts : Lobby.accepts h.shared.policy (sessionOf i past) (.chat text) = true)
    (hd : h.shared.rooms.Holds fun j => roomOf j past) :
    h.call i (Lobby.handle i (.chat text)) = (some (.ok ()), h.inform (onTalking i text past)) := by
  rw [Lobby.handle, call_bind_of_some (call_session hc), call_bind_of_some (call_shared hc), hsession]
  simp only [sessionOf]
  cases hroom : roomOf i past with
  | none =>
    have hnothing : onTalking i text past = fun _ => [] := by
      funext j
      simp [onTalking, hroom]
    rw [hnothing, inform_nil]
    exact call_pure hc _
  | some room =>
    obtain ⟨speaker, hspeaker⟩ := Option.isSome_iff_exists.mp (isSome_nameOf hroom)
    simp only [Lobby.accepts, sessionOf, hroom, hspeaker] at haccepts
    rw [hspeaker]
    cases hencode : (ServerPacket.chatRelay speaker text).encode h.shared.policy with
    | error cause =>
      rw [hencode] at haccepts
      cases haccepts
    | ok data =>
      simp only [hencode]
      have hrelay := act_relay hd hroom hspeaker hencode
      rw [call_bind_of_some (call_perform hc _), hrelay]
      exact call_pure (connection?_inform hc _) _

/-- **A packet is handled**: the session is what the packet makes of it, and connections are sent
what is due to them. -/
theorem call_handle {packet : ClientPacket} (hc : h.connection? i = some c)
    (hsession : c.session = sessionOf i past) (hpolicy : h.shared.policy = p)
    (hp : Possible p past) (hallows : past.Allows p (.handled i packet))
    (hd : h.shared.rooms.Holds fun j => roomOf j past) :
    ∃ rooms, h.call i (Lobby.handle i packet) =
        (some (.ok ()), ((h.setSession i (c.session.after packet)).withRooms rooms).inform fun j =>
          due j (.handled i packet) past) ∧
      rooms.Holds fun j => roomOf j (.handled i packet :: past) := by
  subst hpolicy
  have hroom : c.session.room = roomOf i past := by rw [hsession]; rfl
  have hname : c.session.name = nameOf i past := by rw [hsession]; rfl
  have hput : ∀ s, (h.setSession i s).connection? i = some { c with session := s } :=
    fun s => connection?_modify_self _ hc
  cases packet with
  | enter room name =>
    have hc₁ := hput { name := some name, room := some room }
    obtain ⟨rooms₁, hleave, hd₁⟩ := call_leave? hc₁ hp hd
    obtain ⟨d, hc₂⟩ := exists_connection?_inform hc₁ rooms₁ (onLeaving i past)
    obtain ⟨rooms₂, henter, hd₂⟩ := call_enter hc₂ (hp.cons hallows) hd₁
    obtain ⟨e, hc₃⟩ := exists_connection?_inform hc₂ rooms₂
      (announced room (.handled i (.enter room name) :: past))
    -- first the room before is left, then the new one is entered, and each is announced
    refine ⟨rooms₂, ?_, hd₂⟩
    rw [Lobby.handle, call_bind_of_some (call_session hc),
      call_bind_of_some (call_setSession hc _), hroom, call_bind_of_some hleave,
      call_bind_of_some henter, call_pure hc₃]
    apply congrArg (Prod.mk _)
    exact inform_inform ((h.setSession i { name := some name, room := some room }).withRooms rooms₂)
      (onLeaving i past) _
  | leave =>
    have hc₁ := hput { c.session with room := none }
    obtain ⟨rooms, hleave, hd₁⟩ := call_leave? hc₁ hp hd
    obtain ⟨d, hc₂⟩ := exists_connection?_inform hc₁ rooms (onLeaving i past)
    refine ⟨rooms, ?_, hd₁⟩
    rw [Lobby.handle, call_bind_of_some (call_session hc),
      call_bind_of_some (call_setSession hc _), hroom, call_bind_of_some hleave, call_pure hc₂]
    rfl
  | chat text =>
    have hsame : (h.setSession i (c.session.after (.chat text))).withRooms h.shared.rooms = h :=
      setSession_self hc
    refine ⟨h.shared.rooms, ?_, hd⟩
    rw [hsame]
    exact call_chat hc hsession hallows.2.2.2 hd

/-- What cannot be relayed is refused, and nothing else happens. -/
theorem call_handle_of_refused {packet : ClientPacket} {cause : PacketError}
    (hc : h.connection? i = some c)
    (hrefused : Lobby.reply h.shared.policy c.session packet = .error cause) :
    h.call i (Lobby.handle i packet) = (some (.error cause), h) := by
  cases packet with
  | enter room name => cases hrefused
  | leave => cases hrefused
  | chat text =>
    rw [Lobby.handle, call_bind_of_some (call_session hc), call_bind_of_some (call_shared hc)]
    cases hroom : c.session.room with
    | none =>
      simp only [Lobby.reply, hroom] at hrefused
      cases hrefused
    | some room =>
      cases hspeaker : c.session.name with
      | none =>
        simp only [Lobby.reply, hroom, hspeaker] at hrefused
        cases hrefused
      | some speaker =>
        simp only [Lobby.reply, hroom, hspeaker] at hrefused
        cases hencode : (ServerPacket.chatRelay speaker text).encode h.shared.policy with
        | ok data =>
          rw [hencode] at hrefused
          cases hrefused
        | error cause' =>
          rw [hencode] at hrefused
          cases hrefused
          simp only [hencode]
          exact call_pure hc _

/-- A frame that carries a packet is received as the packet is handled. -/
theorem call_receive_of_ok {f : Frame} {packet : ClientPacket} {answer : Except PacketError Unit}
    (hc : h.connection? i = some c) (hread : ClientPacket.ofFrame f = .ok packet)
    (hhandle : h.call i (Lobby.handle i packet) = (some answer, h')) :
    h.call i (Lobby.receive i f).run = (some (answer.mapError Lobby.refusal), h') := by
  obtain ⟨c', hc'⟩ := exists_connection?_of_call hc hhandle
  simp only [Lobby.receive, hread]
  exact (call_bind_of_some hhandle _).trans (call_pure hc' _)

/-- A frame without a packet is refused, and nothing else happens. -/
theorem call_receive_of_error {f : Frame} {cause : PacketError} (hc : h.connection? i = some c)
    (hread : ClientPacket.ofFrame f = .error cause) :
    h.call i (Lobby.receive i f).run = (some (.error (Lobby.refusal cause)), h) := by
  simp only [Lobby.receive, hread]
  exact call_pure hc _

/-! ## The beginning and the end

A connection is registered from its beginning to its end, and in between nothing that it does
touches the registry. -/

/-- The hub with another registry in its lobby. -/
def withRegistry (h : Hub Lobby Session) (registry : Registry) : Hub Lobby Session :=
  { h with shared := { h.shared with registry } }

/-- Where there is room, a connection that begins is registered. -/
theorem call_welcome_of_ok {registry : Registry} (hc : h.connection? i = some c)
    (hinsert : h.shared.registry.insert i = .ok registry) :
    h.call i (Lobby.welcome i) = (some (), h.withRegistry registry) := by
  rw [Lobby.welcome, call_bind_of_some (call_shared hc)]
  simp only [hinsert]
  exact call_setShared hc _

/-- Where there is none, it is asked to end. -/
theorem call_welcome_of_error {full : LimitReached} (hc : h.connection? i = some c)
    (hinsert : h.shared.registry.insert i = .error full) :
    h.call i (Lobby.welcome i) = (some (), (h.act (Action.close i)).2) := by
  rw [Lobby.welcome, call_bind_of_some (call_shared hc)]
  simp only [hinsert]
  rw [call_perform hc, act_discard]

/-- **A connection is dismissed**: it leaves its room and the registry. -/
theorem call_dismiss (hc : h.connection? i = some c) (hsession : c.session = sessionOf i past)
    (hp : Possible p past) (hd : h.shared.rooms.Holds fun j => roomOf j past) :
    ∃ rooms, h.call i (Lobby.dismiss i) =
        (some (), (((h.setSession i { c.session with room := none }).withRooms rooms).withRegistry
          (h.shared.registry.remove i)).inform (onLeaving i past)) ∧
      rooms.Holds fun j => roomOf j (.dismissed i :: past) := by
  have hroom : c.session.room = roomOf i past := by rw [hsession]; rfl
  have hc₁ : (h.setSession i { c.session with room := none }).connection? i =
      some { c with session := { c.session with room := none } } := connection?_modify_self _ hc
  obtain ⟨rooms, hleave, hd₁⟩ := call_leave? hc₁ hp hd
  obtain ⟨d, hc₂⟩ := exists_connection?_inform hc₁ rooms (onLeaving i past)
  refine ⟨rooms, ?_, hd₁⟩
  rw [Lobby.dismiss, call_bind_of_some (call_session hc), call_bind_of_some (call_setSession hc _),
    hroom, call_bind_of_some hleave, call_bind_of_some (call_shared hc₂), call_setShared hc₂]
  rfl

end Hub

end ChatLobby
