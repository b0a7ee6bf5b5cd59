import ChatLobby.Proofs.Membership

/-!
# What is said is heard

What someone says in a room is relayed to all others who are in it and are connected, once to each
of them, under the name that the speaker entered with.  Nobody else hears it, and outside of any
room nothing is heard at all.

* `Server.relay_exact`: what is said, over every run.
-/

namespace ChatLobby

open History

/-- Whether a packet relays what someone said. -/
def ServerPacket.isRelay : ServerPacket → Bool
  | chatRelay .. => true
  | presence .. => false

open ServerPacket

/-! ## Lines and their listeners

What is due to a connection when something happens is either presences or lines.  Here the lines are
singled out and told apart by who is connected: `relaysTo` is what was sent, `saidAround` what there
was to hear. -/

namespace History

variable {p : FramePolicy} {past now : History} {e : Happening} {i j : ConnectionId}
  {room : String}

/-- The lines that connection `j` was sent so far: one for each time that another one said something
in the room of `j`, while `j` was connected. -/
def relaysTo (j : ConnectionId) : History → List ServerPacket
  | [] => []
  | .handled i (.chat text) :: past =>
    relaysTo j past ++ if IsConnected j past then onTalking i text past j else []
  | _ :: past => relaysTo j past

/-- What others said so far while they were in one room with `j`. -/
def saidAround (j : ConnectionId) : History → List ServerPacket
  | [] => []
  | .handled i (.chat text) :: past => saidAround j past ++ onTalking i text past j
  | _ :: past => saidAround j past

theorem filter_isRelay_announced : (announced room now j).filter isRelay = [] := by
  rw [announced]
  split <;> rfl

theorem filter_isRelay_onLeaving : (onLeaving i past j).filter isRelay = [] := by
  rw [onLeaving]
  split
  · exact filter_isRelay_announced
  · rfl

theorem filter_isRelay_onTalking {text : String} :
    (onTalking i text past j).filter isRelay = onTalking i text past j := by
  apply List.filter_eq_self.mpr
  intro sent hsent
  obtain ⟨_, _, _, _, _, _, rfl⟩ := mem_onTalking hsent
  rfl

theorem filter_isRelay_sentTo (j : ConnectionId) (past : History) :
    (sentTo j past).filter isRelay = relaysTo j past := by
  induction past with
  | nil => rfl
  | cons e past ih =>
    rw [sentTo, List.filter_append, ih, apply_ite (List.filter isRelay), List.filter_nil]
    -- only lines are relayed
    have hquiet : (due j e past).filter isRelay = [] →
        relaysTo j past ++ (if IsConnected j past then (due j e past).filter isRelay else []) =
          relaysTo j past := by
      intro hnone
      rw [hnone, ite_self, List.append_nil]
    cases e with
    | handled i packet =>
      cases packet with
      | chat text =>
        rw [due, filter_isRelay_onTalking]
        rfl
      | enter room name =>
        apply hquiet
        rw [due, List.filter_append, filter_isRelay_onLeaving, filter_isRelay_announced]
        rfl
      | leave => exact hquiet filter_isRelay_onLeaving
    | dismissed i => exact hquiet filter_isRelay_onLeaving
    | arrived | admitted i | rejected i | asked i => exact hquiet rfl

/-- A connection whose end was never decided was sent all that others said around it. -/
theorem Possible.relaysTo_eq (hp : Possible p past) (hrejected : .rejected j ∉ past)
    (hasked : .asked j ∉ past) (hdismissed : .dismissed j ∉ past) :
    relaysTo j past = saidAround j past := by
  induction hp with
  | nil => rfl
  | @cons past e hp _ ih =>
    have hrejected' := List.not_mem_of_not_mem_cons hrejected
    have hasked' := List.not_mem_of_not_mem_cons hasked
    have hdismissed' := List.not_mem_of_not_mem_cons hdismissed
    have hbefore := ih hrejected' hasked' hdismissed'
    cases e with
    | handled i packet =>
      cases packet with
      | chat text =>
        rw [relaysTo, saidAround, hbefore]
        by_cases hconnected : past.IsConnected j
        · rw [if_pos hconnected]
        · -- whoever has not arrived is in no room
          have hnothing : onTalking i text past j = [] := by
            apply List.eq_nil_iff_forall_not_mem.mpr
            intro sent hsent
            obtain ⟨room, _, _, _, _, hroom, _⟩ := mem_onTalking hsent
            exact hconnected ⟨hp.index_lt_of_room hroom, hrejected', hasked', hdismissed'⟩
          rw [hnothing, ite_self]
      | enter room name | leave => exact hbefore
    | arrived | admitted i | rejected i | asked i | dismissed i => exact hbefore

end History

/-! ## What sessions handle

A session handles packets until one cannot be read or is refused.  Where frames may be so large that
no line is refused, only the first reason is left, and what is handled does not depend on the
session. -/

/-- The packets that frames carry, up to the first frame that carries none. -/
def ClientPacket.leading : List Frame → List ClientPacket
  | [] => []
  | f :: frames =>
    match ofFrame f with
    | .ok packet => packet :: leading frames
    | .error _ => []

namespace Lobby

variable {p : FramePolicy} {s : Session} {packet : ClientPacket}

/-- Whether a session has no name, or one that clients may have. -/
def Named (s : Session) : Prop := ∀ name, s.name = some name → Packet.FitsField name Packet.maxNameLength

theorem Named.after (h : Named s) (hvalid : packet.Valid) : Named (s.after packet) := by
  cases packet with
  | enter room name =>
    intro given hgiven
    cases hgiven
    exact hvalid.2
  | leave | chat text => exact h

/-- A line is relayed in a frame of which the size is bounded, so that nothing is refused. -/
theorem accepts_of_fits (hfits : p.headerLength + longestPayload ≤ p.maxFrame) (hs : Named s)
    (hvalid : packet.Valid) : accepts p s packet = true := by
  cases packet with
  | enter room name | leave => rfl
  | chat text =>
    rw [accepts]
    split
    · next room speaker _ hspeaker =>
      have hsmall : (chatRelay speaker text).Small := ⟨(hs speaker hspeaker).2, hvalid.2⟩
      have hlen := length_payload_le hsmall
      obtain ⟨data, hdata⟩ := exists_encode hlen (p := p) (by omega)
      rw [hdata]
      rfl
    · rfl

/-- Where every line makes a frame, every packet that can be read is handled. -/
theorem packetsOf_eq (hfits : p.headerLength + longestPayload ≤ p.maxFrame) (hs : Named s)
    (frames : List Frame) : packetsOf p s frames = ClientPacket.leading frames := by
  induction frames generalizing s with
  | nil => rfl
  | cons f frames ih =>
    rw [packetsOf, ClientPacket.leading]
    cases hread : ClientPacket.ofFrame f with
    | error cause => rfl
    | ok packet =>
      have hvalid := ClientPacket.valid_of_ofFrame hread
      simp only [accepts_of_fits hfits hs hvalid, if_true, ih (hs.after hvalid)]

end Lobby

/-! ## Saying something

What the history has due for others is compared with what the callback of the speaker does: it finds
them by the directory, and the history by where sessions are. -/

namespace Hub

variable {p : FramePolicy} {past : History} {h : Hub Lobby Session} {i : ConnectionId}
  {c : Connection Session} {room : String}

/-- Send a payload to all other connections whose sessions are in a room. -/
def sendOthers (h : Hub Lobby Session) (i : ConnectionId) (room : String) (data : Bytes) :
    Hub Lobby Session :=
  { h with connections := h.connections.mapIdx fun k d =>
      if ⟨k⟩ ≠ i ∧ d.session.room = some room then (d.send data).2 else d }

/-- The names of sessions are such as clients may have. -/
theorem Follows.named (hf : h.Follows p past) (hc : h.connection? i = some c) :
    Lobby.Named c.session := by
  intro name hname
  rw [(hf.tracks i c hc).session_eq] at hname
  exact hf.possible.fits_name hname

/-- What is said in a room is sent to all others whose sessions are in it. -/
theorem Follows.inform_onTalking {text speaker : String} {data : Bytes} (hf : h.Follows p past)
    (hroom : roomOf i past = some room) (hspeaker : nameOf i past = some speaker)
    (hencode : (chatRelay speaker text).encode p = .ok data) :
    h.inform (onTalking i text past) = h.sendOthers i room data := by
  rw [inform, hf.policy_eq, tell, sendOthers]
  congr 1
  -- -- connection by connection: what is due to it is one line, or none
  refine List.ext_getElem? fun k => ?_
  rw [List.getElem?_mapIdx, List.getElem?_mapIdx]
  cases hd : h.connections[k]? with
  | none => rfl
  | some d =>
    have hwhere : d.session.room = roomOf ⟨k⟩ past := hf.room_eq hd
    rw [Option.map_some, Option.map_some, hwhere, onTalking, hroom, hspeaker]
    dsimp only
    by_cases hhears : ⟨k⟩ ≠ i ∧ roomOf ⟨k⟩ past = some room
    · rw [if_pos hhears, if_pos hhears]
      simp [frames, hencode, Except.toOption, Connection.sendAll]
    · rw [if_neg hhears, if_neg hhears]
      rfl

/-- A line that can be read is handled, and its listeners are sent what is due to them. -/
theorem Follows.receive_chat {f : Frame} {text : String} (hf : h.Follows p past)
    (hc : h.connection? i = some c) (hread : ClientPacket.ofFrame f = .ok (.chat text))
    (hfits : p.headerLength + longestPayload ≤ p.maxFrame) :
    h.call i (Lobby.receive i f).run = (some (.ok ()), h.inform (onTalking i text past)) := by
  have hsession := (hf.tracks i c hc).session_eq
  have haccepts : Lobby.accepts h.shared.policy (sessionOf i past) (.chat text) = true := by
    rw [hf.policy_eq, ← hsession]
    exact Lobby.accepts_of_fits hfits (hf.named hc) (ClientPacket.valid_of_ofFrame hread)
  exact call_receive_of_ok hc hread (call_chat hc hsession haccepts hf.rooms)

/-- **Something is said**: outside of any room nothing comes of it, and in a room it is sent to all
others there, under the name of the session. -/
theorem Follows.says {f : Frame} {text : String} (hf : h.Follows p past)
    (hc : h.connection? i = some c) (hread : ClientPacket.ofFrame f = .ok (.chat text))
    (hfits : p.headerLength + longestPayload ≤ p.maxFrame) :
    (c.session.room = none → h.call i (Lobby.receive i f).run = (some (.ok ()), h)) ∧
      ∀ room, c.session.room = some room → ∃ speaker data, c.session.name = some speaker ∧
        (chatRelay speaker text).encode p = .ok data ∧
        h.call i (Lobby.receive i f).run = (some (.ok ()), h.sendOthers i room data) := by
  have hreceive := hf.receive_chat hc hread hfits
  have hsession := (hf.tracks i c hc).session_eq
  refine ⟨fun hroom => ?_, fun room hroom => ?_⟩
  · have hnothing : onTalking i text past = fun _ => [] := by
      funext j
      rw [hf.room_eq hc] at hroom
      simp [onTalking, hroom]
    rw [hreceive, hnothing, inform_nil]
  · rw [hf.room_eq hc] at hroom
    obtain ⟨speaker, hspeaker⟩ := Option.isSome_iff_exists.mp (isSome_nameOf hroom)
    have hname : c.session.name = some speaker := by
      rw [hsession]
      exact hspeaker
    have hvalid := ClientPacket.valid_of_ofFrame hread
    have hsmall : (chatRelay speaker text).Small :=
      ⟨(hf.possible.fits_name hspeaker).2, hvalid.2⟩
    have hlen := length_payload_le hsmall
    obtain ⟨data, hdata⟩ := exists_encode hlen (p := p) (by omega)
    refine ⟨speaker, data, hname, hdata, ?_⟩
    rw [hreceive, hf.inform_onTalking hroom hspeaker hdata]

end Hub

namespace Server

/-! ## Servers -/

/-- **What is said is heard by those who are there**, where every line makes a frame (with a prefix
of two bytes, 539 bytes will do).  A session handles all packets up to the first that cannot be
read.  What it says goes to all others of its room under its name, and nowhere else; outside of any
room nothing comes of it.  So over a run every connection accepted one packet for each line that
another said in its room, and when nothing is left to do for a session that goes on, its client has
read all that others said around it, in order. -/
theorem relay_exact (address : SocketAddress) (sizing : ReceiveSizing) (capacity : Nat)
    (p : FramePolicy) (moves : List Move)
    (hfits : p.headerLength + ServerPacket.longestPayload ≤ p.maxFrame) :
    let server := (opened address sizing capacity p).run moves
    let past := (opened address sizing capacity p).history moves
    ∀ i c, server.hub.connection? i = some c →
      (c.session = sessionOf i past ∧ (c.phase = .connected ↔ past.IsConnected i)) ∧
      (∀ frames, Lobby.packetsOf p c.session frames = ClientPacket.leading frames) ∧
      (∀ f text, ClientPacket.ofFrame f = .ok (.chat text) →
        (c.session.room = none →
          server.hub.call i (Lobby.receive i f).run = (some (.ok ()), server.hub)) ∧
        ∀ room, c.session.room = some room → ∃ speaker data, c.session.name = some speaker ∧
          (chatRelay speaker text).encode p = .ok data ∧
          server.hub.call i (Lobby.receive i f).run =
            (some (.ok ()), server.hub.sendOthers i room data)) ∧
      (∃ packets : List ServerPacket, packets.map (·.encode p) = c.accepted.map .ok ∧
        packets.filter isRelay = relaysTo i past) ∧
      ∀ q, c.phase = .connected → c.next? = none → q.Reads p →
        (readAll q c.socket.delivered).filter isRelay = saidAround i past := by
  have hf := follows_history address sizing capacity p moves
  have hpresence : p.headerLength + longestPresence ≤ p.maxFrame := by
    rw [longestPayload] at hfits
    rw [longestPresence]
    omega
  intro server past i c hc
  have htracks := hf.tracks i c hc
  refine ⟨⟨htracks.session_eq, htracks.connected_iff⟩, ?_, ?_, ?_, ?_⟩
  · intro frames
    exact Lobby.packetsOf_eq hfits (hf.named hc) frames
  · intro f text hread
    exact hf.says hc hread hfits
  · refine ⟨sentTo i past, ?_, filter_isRelay_sentTo i past⟩
    exact hf.map_encode_sentTo hpresence hc
  · intro q hphase hquiet hq
    obtain ⟨-, hrejected, hasked, hdismissed⟩ := htracks.connected_iff.mp hphase
    rw [readAll_delivered hpresence hq hc hphase hquiet, filter_isRelay_sentTo]
    exact hf.possible.relaysTo_eq hrejected hasked hdismissed

/-- Two clients enter one room, and the second one says something. -/
def conversation : List Move :=
  meeting ++ [.peerSends ⟨1⟩ [7, 0, 3, 0, 2, 104, 105], .progress ⟨1⟩ .receive {}] ++ flushing ⟨0⟩

/-- The first client hears it, and nothing else, with the shortest frames that will do. -/
theorem relay_exact_conversation :
    ∃ c, ((opened ⟨.v4 ⟨127, 0, 0, 1⟩, 0⟩ ⟨64, 16⟩ 2 { maxFrame := 539 }).run
      conversation).hub.connection? ⟨0⟩ = some c ∧
        (readAll {} c.socket.delivered).filter isRelay = [.chatRelay "cd" "hi"] := by
  have hconversation := relay_exact ⟨.v4 ⟨127, 0, 0, 1⟩, 0⟩ ⟨64, 16⟩ 2 { maxFrame := 539 }
    conversation (by decide)
  have hstate : ((((opened ⟨.v4 ⟨127, 0, 0, 1⟩, 0⟩ ⟨64, 16⟩ 2 { maxFrame := 539 }).run
      conversation).hub.connection? ⟨0⟩).map fun c => (c.phase, c.next?)) =
        some (.connected, none) := by decide +kernel
  obtain ⟨c, hc, hstate⟩ := Option.map_eq_some_iff.mp hstate
  injection hstate with hphase hquiet
  refine ⟨c, hc, ?_⟩
  obtain ⟨-, -, -, -, hheard⟩ := hconversation ⟨0⟩ c hc
  rw [hheard {} hphase hquiet ⟨rfl, rfl, by decide, by decide⟩]
  decide +kernel

end Server

end ChatLobby
