import ChatLobby.Lobby
import ChatLobby.Proofs.ServerPackets

/-!
# What happened in a lobby

The history of a lobby is the list of what happened in it: connections arrive, are admitted or
rejected, have packets handled, are asked to end, and are dismissed.  A history says by itself in
which room a connection is and under which name (`History.roomOf`, `History.nameOf`), how many
members a room has (`History.population`), and what a connection is sent (`History.sentTo`).

What is said here is about histories alone.  That a server keeps to its history is proved in
`Following` and in `ServerHistory`.

* `Possible.admitted_of_room`: whoever is in a room was admitted and not dismissed since.
* `Possible.exists_encode_of_mem_sentTo`: all that is sent makes frames.
-/

namespace ChatLobby

/-- What happens in a lobby. -/
inductive Happening where
  /-- A connection is accepted. -/
  | arrived
  /-- A connection that begins is admitted. -/
  | admitted (i : ConnectionId)
  /-- A connection that begins is asked to end, as the lobby is full. -/
  | rejected (i : ConnectionId)
  /-- A packet of a connection is handled. -/
  | handled (i : ConnectionId) (packet : ClientPacket)
  /-- Someone here asks for the end of a connection. -/
  | asked (i : ConnectionId)
  /-- The lobby is told that a connection has ended. -/
  | dismissed (i : ConnectionId)
  deriving DecidableEq, Repr

/-- The connection that something happens to, unless it is made by it. -/
def Happening.subject? : Happening → Option ConnectionId
  | arrived => none
  | admitted i | rejected i | handled i _ | asked i | dismissed i => some i

theorem Happening.subject?_ne {e : Happening} {i j : ConnectionId} (h : e.subject? = some i)
    (hne : j ≠ i) : e.subject? ≠ some j := by
  intro heq
  rw [h] at heq
  injection heq with hij
  exact hne hij.symm

/-- What happened so far, the latest first. -/
abbrev History := List Happening

namespace History

/-! ## What a history says

All of it is computed from the end of the history backwards, and by recursion over it, so that one
more thing that happens is one step of each of these functions. -/

/-- How many connections were accepted. -/
def arrivals (past : History) : Nat := past.count .arrived

/-- The name that a connection gave when it last entered a room. -/
def nameOf (i : ConnectionId) : History → Option String
  | [] => none
  | .handled j (.enter _ name) :: past => if j = i then some name else nameOf i past
  | _ :: past => nameOf i past

/-- The room that a connection is in. -/
def roomOf (i : ConnectionId) : History → Option String
  | [] => none
  | .handled j (.enter room _) :: past => if j = i then some room else roomOf i past
  | .handled j .leave :: past | .dismissed j :: past => if j = i then none else roomOf i past
  | _ :: past => roomOf i past

/-- What a lobby has to keep for a connection. -/
def sessionOf (i : ConnectionId) (past : History) : Session where
  name := nameOf i past
  room := roomOf i past

/-- A connection is connected from its arrival on, until its end is decided. -/
def IsConnected (i : ConnectionId) (past : History) : Prop :=
  i.index < past.arrivals ∧ .rejected i ∉ past ∧ .asked i ∉ past ∧ .dismissed i ∉ past

instance (i : ConnectionId) (past : History) : Decidable (past.IsConnected i) :=
  inferInstanceAs (Decidable (_ ∧ _))

/-- The connections that are in a room. -/
def members (room : String) (past : History) : List ConnectionId :=
  (ConnectionId.firstIds past.arrivals).filter fun i => roomOf i past = some room

/-- How many connections are in a room. -/
def population (room : String) (past : History) : Nat := (members room past).length

/-! ### What is due to connections

A change of a room is announced to whoever is in it afterwards.  So `announced` looks at the history
with the change, while `onTalking` looks at the one before. -/

/-- What connection `j` is told when a room has a new number of members: that number, if it is one
of them. -/
def announced (room : String) (now : History) (j : ConnectionId) : List ServerPacket :=
  if roomOf j now = some room then
    [.presence room (Lobby.memberCount (population room now))]
  else []

/-- What connection `j` is told when connection `i` leaves its room, if it is in one. -/
def onLeaving (i : ConnectionId) (past : History) (j : ConnectionId) : List ServerPacket :=
  match roomOf i past with
  | some room => announced room (.handled i .leave :: past) j
  | none => []

/-- What connection `j` is told when connection `i` says something: that it did, if both are in one
room. -/
def onTalking (i : ConnectionId) (text : String) (past : History) (j : ConnectionId) :
    List ServerPacket :=
  match roomOf i past, nameOf i past with
  | some room, some speaker =>
    if j ≠ i ∧ roomOf j past = some room then [.chatRelay speaker text] else []
  | _, _ => []

/-- What connection `j` is told of what happens.  To enter a room is to leave the room before and to
enter then, which are two changes. -/
def due (j : ConnectionId) : Happening → History → List ServerPacket
  | .handled i (.enter room name), past =>
    onLeaving i past j ++ announced room (.handled i (.enter room name) :: past) j
  | .handled i .leave, past | .dismissed i, past => onLeaving i past j
  | .handled i (.chat text), past => onTalking i text past j
  | .arrived, _ | .admitted _, _ | .rejected _, _ | .asked _, _ => []

/-- What connection `j` was sent so far: what it was told while it was connected. -/
def sentTo (j : ConnectionId) : History → List ServerPacket
  | [] => []
  | e :: past => sentTo j past ++ if IsConnected j past then due j e past else []

end History

/-! ## Possible histories

Not every list is the history of a lobby: nobody is handled before it was admitted, and nobody is
dismissed twice.  `Allows` is what the lobby sees to, and what the proofs about histories may use.
-/

/-- Whether a text may stand in a field for at most `max` bytes. -/
def Packet.FitsField (value : String) (max : Nat) : Prop :=
  0 < value.utf8ByteSize ∧ value.utf8ByteSize ≤ max

/-- Whether a client may send a packet. -/
def ClientPacket.Valid : ClientPacket → Prop
  | enter room name =>
    Packet.FitsField room Packet.maxNameLength ∧ Packet.FitsField name Packet.maxNameLength
  | leave => True
  | chat text => Packet.FitsField text Packet.maxTextLength

/-- What is done in two parts and works, works in both. -/
theorem exists_of_bind_eq_ok {ε α β : Type} {x : Except ε α} {f : α → Except ε β} {y : β}
    (h : (x >>= f) = .ok y) : ∃ a, x = .ok a ∧ f a = .ok y := by
  cases x with
  | error cause => cases h
  | ok a => exact ⟨a, rfl, h⟩

/-- What is done in two parts and fails, fails in one of them. -/
theorem of_bind_eq_error {ε α β : Type} {x : Except ε α} {f : α → Except ε β} {cause : ε}
    (h : (x >>= f) = .error cause) : x = .error cause ∨ ∃ a, f a = .error cause := by
  cases x with
  | error other =>
    cases h
    exact .inl rfl
  | ok a => exact .inr ⟨a, h⟩

/-- A field that passed its check keeps its limits. -/
theorem Packet.fitsField_of_checkLength {field value : String} {max : Nat} {u : Unit}
    (h : checkLength field value max = .ok u) : FitsField value max := by
  rw [checkLength] at h
  split at h
  · cases h
  · next hbounds =>
    rw [not_or] at hbounds
    exact ⟨Nat.pos_of_ne_zero hbounds.1, Nat.not_lt.mp hbounds.2⟩

/-- **What was read is valid**: every field was checked on the way. -/
theorem ClientPacket.valid_of_ofFrame {f : Frame} {packet : ClientPacket}
    (h : ofFrame f = .ok packet) : packet.Valid := by
  rw [ofFrame] at h
  split at h
  · cases h
  · rw [ofTagged] at h
    split at h
    · -- each step of the reading went well
      obtain ⟨⟨room, rest⟩, -, h⟩ := exists_of_bind_eq_ok h
      obtain ⟨⟨name, behind⟩, -, h⟩ := exists_of_bind_eq_ok h
      obtain ⟨_, hroom, h⟩ := exists_of_bind_eq_ok h
      obtain ⟨_, hname, h⟩ := exists_of_bind_eq_ok h
      cases h
      exact ⟨Packet.fitsField_of_checkLength hroom, Packet.fitsField_of_checkLength hname⟩
    · cases h
      trivial
    · obtain ⟨⟨text, behind⟩, -, h⟩ := exists_of_bind_eq_ok h
      obtain ⟨_, htext, h⟩ := exists_of_bind_eq_ok h
      cases h
      exact Packet.fitsField_of_checkLength htext
    · cases h

/-- What handling a packet makes of a session. -/
def Session.after (s : Session) : ClientPacket → Session
  | .enter room name => { name := some name, room := some room }
  | .leave => { s with room := none }
  | .chat _ => s

/-- Whether handling a packet goes well: what is said in a room has to make a frame. -/
def Lobby.accepts (p : FramePolicy) (s : Session) : ClientPacket → Bool
  | .enter .. | .leave => true
  | .chat text =>
    match s.room, s.name with
    | some _, some speaker => ((ServerPacket.chatRelay speaker text).encode p).toBool
    | _, _ => true

/-- What the lobby answers to a packet: what is wrong with it if it is not accepted. -/
def Lobby.reply (p : FramePolicy) (s : Session) : ClientPacket → Except PacketError Unit
  | .enter .. | .leave => .ok ()
  | .chat text =>
    match s.room, s.name with
    | some _, some speaker => ((ServerPacket.chatRelay speaker text).encode p).map fun _ => ()
    | _, _ => .ok ()

/-- Handling goes well if the answer is no error. -/
theorem Lobby.accepts_eq (p : FramePolicy) (s : Session) (packet : ClientPacket) :
    accepts p s packet = (reply p s packet).toBool := by
  cases packet with
  | enter room name => rfl
  | leave => rfl
  | chat text =>
    rw [accepts, reply]
    split
    · cases (ServerPacket.chatRelay _ text).encode p <;> rfl
    · rfl

namespace History

/-- `past.Allows p e`: after `past`, a lobby that frames by `p` may have `e` happen. -/
def Allows (p : FramePolicy) (past : History) : Happening → Prop
  | .arrived => True
  | .admitted i | .rejected i =>
    i.index < past.arrivals ∧ .admitted i ∉ past ∧ .rejected i ∉ past ∧ .dismissed i ∉ past
  | .handled i packet =>
    .admitted i ∈ past ∧ IsConnected i past ∧ packet.Valid ∧
      Lobby.accepts p (sessionOf i past) packet = true
  | .asked i => i.index < past.arrivals
  | .dismissed i => (.admitted i ∈ past ∨ .rejected i ∈ past) ∧ .dismissed i ∉ past

/-- The histories of lobbies that frame by `p`. -/
inductive Possible (p : FramePolicy) : History → Prop
  | nil : Possible p []
  | cons {past : History} {e : Happening} : Possible p past → past.Allows p e →
      Possible p (e :: past)

/-! ### One more thing that happens

What happens to one connection leaves what is said of the others as it was.  So these lemmas come in
two kinds: for what happens to the connection itself, and for everything else. -/

variable {p : FramePolicy} {past : History} {e : Happening} {i j : ConnectionId} {room : String}
  {packet : ClientPacket}

theorem arrivals_cons_arrived : arrivals (.arrived :: past) = past.arrivals + 1 :=
  List.count_cons_self

theorem arrivals_cons_of_ne (h : e ≠ .arrived) : arrivals (e :: past) = past.arrivals :=
  List.count_cons_of_ne h

/-- Whoever has arrived stays arrived. -/
theorem arrivals_le_cons (e : Happening) (past : History) : past.arrivals ≤ arrivals (e :: past) :=
  List.count_le_count_cons

/-- What happens to others says nothing about the session of a connection. -/
theorem sessionOf_cons_of_ne (h : e.subject? ≠ some i) :
    sessionOf i (e :: past) = sessionOf i past := by
  cases e with
  | handled j packet =>
    have hj : j ≠ i := fun hj => h (congrArg some hj)
    cases packet <;> simp [sessionOf, nameOf, roomOf, hj]
  | dismissed j =>
    have hj : j ≠ i := fun hj => h (congrArg some hj)
    simp [sessionOf, nameOf, roomOf, hj]
  | _ => rfl

theorem roomOf_cons_of_ne (h : e.subject? ≠ some i) : roomOf i (e :: past) = roomOf i past :=
  congrArg Session.room (sessionOf_cons_of_ne h)

theorem roomOf_handled_of_ne (h : j ≠ i) (packet : ClientPacket) (past : History) :
    roomOf j (.handled i packet :: past) = roomOf j past :=
  roomOf_cons_of_ne (Happening.subject?_ne rfl h)

/-- What a packet makes of a session, it makes of the one that a history says. -/
theorem sessionOf_handled (i : ConnectionId) (packet : ClientPacket) (past : History) :
    sessionOf i (.handled i packet :: past) = (sessionOf i past).after packet := by
  cases packet <;> simp [sessionOf, nameOf, roomOf, Session.after]

theorem roomOf_leave (i : ConnectionId) (past : History) :
    roomOf i (.handled i .leave :: past) = none :=
  if_pos rfl

theorem roomOf_dismissed (i : ConnectionId) (past : History) :
    roomOf i (.dismissed i :: past) = none :=
  if_pos rfl

/-- A connection that arrived stays connected, unless its end is decided. -/
theorem isConnected_cons_iff (hi : i.index < past.arrivals) :
    IsConnected i (e :: past) ↔
      past.IsConnected i ∧ e ≠ .rejected i ∧ e ≠ .asked i ∧ e ≠ .dismissed i := by
  have harrivals : i.index < arrivals (e :: past) :=
    Nat.lt_of_lt_of_le hi (arrivals_le_cons e past)
  simp only [IsConnected, List.mem_cons, not_or, hi, harrivals, true_and]
  grind

/-- Whoever is in a room entered it just now, or was in it already. -/
theorem roomOf_cons_eq_some (h : roomOf i (e :: past) = some room) :
    (∃ name, e = .handled i (.enter room name)) ∨
      (roomOf i past = some room ∧ e ≠ .dismissed i) := by
  cases e with
  | handled j packet =>
    cases packet with
    | enter room' name =>
      by_cases hj : j = i
      · subst hj
        simp only [roomOf, if_pos, Option.some.injEq] at h
        exact .inl ⟨name, by rw [h]⟩
      · simp only [roomOf, if_neg hj] at h
        exact .inr ⟨h, by rintro ⟨⟩⟩
    | leave =>
      by_cases hj : j = i
      · simp [roomOf, hj] at h
      · simp only [roomOf, if_neg hj] at h
        exact .inr ⟨h, by rintro ⟨⟩⟩
    | chat text => exact .inr ⟨h, by rintro ⟨⟩⟩
  | dismissed j =>
    by_cases hj : j = i
    · simp [roomOf, hj] at h
    · simp only [roomOf, if_neg hj] at h
      refine .inr ⟨h, fun heq => hj ?_⟩
      injection heq
  | arrived | admitted j | rejected j | asked j => exact .inr ⟨h, by rintro ⟨⟩⟩

/-- Whoever has a name was given it just now, or had it already. -/
theorem nameOf_cons_eq_some {name : String} (h : nameOf i (e :: past) = some name) :
    (∃ room, e = .handled i (.enter room name)) ∨ nameOf i past = some name := by
  cases e with
  | handled j packet =>
    cases packet with
    | enter room name' =>
      by_cases hj : j = i
      · subst hj
        simp only [nameOf, if_pos, Option.some.injEq] at h
        exact .inl ⟨room, by rw [h]⟩
      · simp only [nameOf, if_neg hj] at h
        exact .inr h
    | leave | chat text => exact .inr h
  | arrived | admitted j | rejected j | asked j | dismissed j => exact .inr h

/-- Names are never given up. -/
theorem isSome_nameOf_cons (e : Happening) (h : (nameOf i past).isSome) :
    (nameOf i (e :: past)).isSome := by
  cases e with
  | handled j packet =>
    cases packet with
    | enter room name =>
      by_cases hj : j = i <;> simp [nameOf, hj, h]
    | leave | chat text => exact h
  | arrived | admitted j | rejected j | asked j | dismissed j => exact h

/-- Whoever is in a room has a name. -/
theorem isSome_nameOf (h : roomOf i past = some room) : (nameOf i past).isSome := by
  induction past with
  | nil => cases h
  | cons e past ih =>
    rcases roomOf_cons_eq_some h with ⟨name, rfl⟩ | ⟨hbefore, -⟩
    · simp [nameOf]
    · exact isSome_nameOf_cons e (ih hbefore)

/-! ### What possible histories have in common

Each of these is an induction over the history, by what the last thing was that happened. -/

namespace Possible

/-- Nothing happens to a connection before it arrives. -/
theorem index_lt_of_mem (hp : Possible p past) (h : e ∈ past) (hsubject : e.subject? = some i) :
    i.index < past.arrivals := by
  induction hp generalizing e with
  | nil => cases h
  | @cons past latest hp hallows ih =>
    refine Nat.lt_of_lt_of_le ?_ (arrivals_le_cons latest past)
    rcases List.mem_cons.mp h with rfl | hbefore
    · cases e with
      | arrived => cases hsubject
      | admitted j | rejected j =>
        cases hsubject
        exact hallows.1
      | handled j packet =>
        cases hsubject
        exact hallows.2.1.1
      | asked j =>
        cases hsubject
        exact hallows
      | dismissed j =>
        cases hsubject
        exact hallows.1.elim (fun h => ih h rfl) fun h => ih h rfl
    · exact ih hbefore hsubject

/-- Whoever is in a room was admitted and not dismissed since. -/
theorem admitted_of_room (hp : Possible p past) (h : roomOf i past = some room) :
    .admitted i ∈ past ∧ .dismissed i ∉ past := by
  induction hp with
  | nil => cases h
  | cons _ hallows ih =>
    rcases roomOf_cons_eq_some h with ⟨name, rfl⟩ | ⟨hbefore, hne⟩
    · obtain ⟨hadmitted, ⟨-, -, -, hdismissed⟩, -⟩ := hallows
      simp [hadmitted, hdismissed]
    · obtain ⟨hadmitted, hdismissed⟩ := ih hbefore
      simp [hadmitted, hdismissed, hne.symm]

/-- Whoever has a name was admitted. -/
theorem admitted_of_name {name : String} (hp : Possible p past) (h : nameOf i past = some name) :
    .admitted i ∈ past := by
  induction hp with
  | nil => cases h
  | cons _ hallows ih =>
    rcases nameOf_cons_eq_some h with ⟨room, rfl⟩ | hbefore
    · exact List.mem_cons_of_mem _ hallows.1
    · exact List.mem_cons_of_mem _ (ih hbefore)

/-- Whoever is in a room has arrived. -/
theorem index_lt_of_room (hp : Possible p past) (h : roomOf i past = some room) :
    i.index < past.arrivals :=
  hp.index_lt_of_mem (hp.admitted_of_room h).1 rfl

/-- Nothing is kept for a connection before it arrives. -/
theorem sessionOf_fresh (hp : Possible p past) (hi : past.arrivals ≤ i.index) :
    sessionOf i past = {} := by
  have hroom : roomOf i past = none := by
    apply Option.eq_none_iff_forall_not_mem.mpr
    intro room h
    exact absurd (hp.index_lt_of_room h) (by omega)
  have hname : nameOf i past = none := by
    apply Option.eq_none_iff_forall_not_mem.mpr
    intro name h
    exact absurd (hp.index_lt_of_mem (hp.admitted_of_name h) rfl) (by omega)
  rw [sessionOf, hroom, hname]

/-- Rooms have the names that packets may have. -/
theorem fits_room (hp : Possible p past) (h : roomOf i past = some room) :
    Packet.FitsField room Packet.maxNameLength := by
  induction hp with
  | nil => cases h
  | cons _ hallows ih =>
    rcases roomOf_cons_eq_some h with ⟨name, rfl⟩ | ⟨hbefore, -⟩
    · exact hallows.2.2.1.1
    · exact ih hbefore

/-- And so do their members. -/
theorem fits_name {name : String} (hp : Possible p past) (h : nameOf i past = some name) :
    Packet.FitsField name Packet.maxNameLength := by
  induction hp with
  | nil => cases h
  | cons _ hallows ih =>
    rcases nameOf_cons_eq_some h with ⟨room, rfl⟩ | hbefore
    · exact hallows.2.2.1.2
    · exact ih hbefore

end Possible

/-! ## How many are in a room

The members of a room are counted among all who have arrived, so that the count changes with who is
in the room and with nothing else. -/

/-- The members of a room stay the same if nobody arrives, and nobody enters or leaves it. -/
theorem population_congr {now : History} (harrivals : now.arrivals = past.arrivals)
    (h : ∀ i, roomOf i now = some room ↔ roomOf i past = some room) :
    population room now = population room past := by
  have hsame : members room now = members room past := by
    rw [members, members, harrivals]
    apply List.filter_congr
    intro i _
    rw [decide_eq_decide, h]
  rw [population, population, hsame]

/-- Whoever arrives is in no room yet. -/
theorem population_arrived (hp : Possible p past) :
    population room (.arrived :: past) = population room past := by
  have hnew : roomOf ⟨past.arrivals⟩ (.arrived :: past) = none :=
    congrArg Session.room (hp.sessionOf_fresh (i := ⟨past.arrivals⟩) (Nat.le_refl _))
  have hids : ConnectionId.firstIds (past.arrivals + 1) =
      ConnectionId.firstIds past.arrivals ++ [⟨past.arrivals⟩] := by
    rw [ConnectionId.firstIds, List.range_succ, List.map_append]
    rfl
  rw [population, members, arrivals_cons_arrived, hids, List.filter_append]
  simp [hnew, population, members]
  rfl

/-! ## What was sent

A connection is sent what is due to it while it is connected.  That everything which is sent makes a
frame is known for two reasons: presences are short, and what someone says is refused if its relay
would not make one. -/

theorem sentTo_fresh (h : past.arrivals ≤ i.index) : sentTo i past = [] := by
  induction past with
  | nil => rfl
  | cons e past ih =>
    have hbefore : arrivals past ≤ i.index := Nat.le_trans (arrivals_le_cons e past) h
    have hnot : ¬ IsConnected i past := fun hconnected => Nat.not_lt.mpr hbefore hconnected.1
    rw [sentTo, ih hbefore, if_neg hnot]
    rfl

theorem mem_announced {now : History} {sent : ServerPacket} (h : sent ∈ announced room now j) :
    roomOf j now = some room ∧ sent = .presence room (Lobby.memberCount (population room now)) := by
  rw [announced] at h
  split at h
  · next hj => exact ⟨hj, List.mem_singleton.mp h⟩
  · exact absurd h List.not_mem_nil

/-- What is relayed was said in the room of whoever is told. -/
theorem mem_onTalking {text : String} {sent : ServerPacket} (h : sent ∈ onTalking i text past j) :
    ∃ room speaker, roomOf i past = some room ∧ nameOf i past = some speaker ∧ j ≠ i ∧
      roomOf j past = some room ∧ sent = .chatRelay speaker text := by
  rw [onTalking] at h
  split at h
  · next room speaker hroom hspeaker =>
    split at h
    · next hj => exact ⟨room, speaker, hroom, hspeaker, hj.1, hj.2, List.mem_singleton.mp h⟩
    · exact absurd h List.not_mem_nil
  · exact absurd h List.not_mem_nil

/-- What was sent was sent before or is due now. -/
theorem mem_sentTo_cons {sent : ServerPacket} (h : sent ∈ sentTo j (e :: past)) :
    sent ∈ sentTo j past ∨ sent ∈ due j e past := by
  rw [sentTo, List.mem_append] at h
  refine h.imp id fun hdue => ?_
  split at hdue
  · exact hdue
  · exact absurd hdue List.not_mem_nil

/-- What is due is a presence of a room that someone enters or leaves, or what someone says. -/
theorem mem_due {sent : ServerPacket} (h : sent ∈ due j e past) :
    (∃ room members, sent = .presence room members ∧
      ((∃ i, roomOf i past = some room) ∨ ∃ i name, e = .handled i (.enter room name))) ∨
    ∃ i text room speaker, e = .handled i (.chat text) ∧ roomOf i past = some room ∧
      nameOf i past = some speaker ∧ sent = .chatRelay speaker text := by
  have hleaving : ∀ i, sent ∈ onLeaving i past j → ∃ room members,
      sent = .presence room members ∧ ∃ i, roomOf i past = some room := by
    intro i h
    rw [onLeaving] at h
    split at h
    · next room hroom => exact ⟨room, _, (mem_announced h).2, i, hroom⟩
    · exact absurd h List.not_mem_nil
  cases e with
  | handled i packet =>
    cases packet with
    | enter room name =>
      rcases List.mem_append.mp h with h | h
      · obtain ⟨room', members, hsent, hroom⟩ := hleaving i h
        exact .inl ⟨room', members, hsent, .inl hroom⟩
      · exact .inl ⟨room, _, (mem_announced h).2, .inr ⟨i, name, rfl⟩⟩
    | leave =>
      obtain ⟨room', members, hsent, hroom⟩ := hleaving i h
      exact .inl ⟨room', members, hsent, .inl hroom⟩
    | chat text =>
      obtain ⟨room, speaker, hroom, hspeaker, -, -, hsent⟩ := mem_onTalking h
      exact .inr ⟨i, text, room, speaker, rfl, hroom, hspeaker, hsent⟩
  | dismissed i =>
    obtain ⟨room', members, hsent, hroom⟩ := hleaving i h
    exact .inl ⟨room', members, hsent, .inl hroom⟩
  | arrived | admitted i | rejected i | asked i => exact absurd h List.not_mem_nil

namespace Possible

/-- All that is sent is about rooms and names that passed their checks. -/
theorem small_of_mem_sentTo (hp : Possible p past) {sent : ServerPacket}
    (h : sent ∈ sentTo j past) : sent.Small := by
  induction hp with
  | nil => exact absurd h List.not_mem_nil
  | cons hp hallows ih =>
    rcases mem_sentTo_cons h with h | h
    · exact ih h
    · rcases mem_due h with ⟨room, members, rfl, ⟨i, hroom⟩ | ⟨i, name, rfl⟩⟩ |
        ⟨i, text, room, speaker, rfl, hroom, hspeaker, rfl⟩
      · exact (hp.fits_room hroom).2
      · exact hallows.2.2.1.1.2
      · exact ⟨(hp.fits_name hspeaker).2, hallows.2.2.1.2⟩

/-- What is said is sent only if it makes a frame. -/
theorem exists_encode_of_mem_sentTo (hp : Possible p past)
    (hfits : p.headerLength + ServerPacket.longestPresence ≤ p.maxFrame) {sent : ServerPacket}
    (h : sent ∈ sentTo j past) : ∃ b, sent.encode p = .ok b := by
  induction hp with
  | nil => exact absurd h List.not_mem_nil
  | @cons past e hp hallows ih =>
    rcases mem_sentTo_cons h with hbefore | hdue
    · exact ih hbefore
    · have hsmall := (Possible.cons hp hallows).small_of_mem_sentTo h
      rcases mem_due hdue with ⟨room, members, rfl, -⟩ |
        ⟨i, text, room, speaker, rfl, hroom, hspeaker, rfl⟩
      · have hlen := ServerPacket.length_presence_le members hsmall
        exact ServerPacket.exists_encode (Nat.le_trans hlen (by decide)) (by omega)
      · -- else the packet would have been refused
        have haccepts := hallows.2.2.2
        simp only [Lobby.accepts, sessionOf, hroom, hspeaker] at haccepts
        cases hencode : (ServerPacket.chatRelay speaker text).encode p with
        | ok b => exact ⟨b, rfl⟩
        | error cause =>
          rw [hencode] at haccepts
          cases haccepts

end Possible

end History

end ChatLobby
