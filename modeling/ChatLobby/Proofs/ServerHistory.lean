import ChatLobby.Proofs.Following
import ChatLobby.Proofs.Sending

/-!
# A server keeps to its history

Every move of a server carries the history on, and so does every run.  What its clients received is
known from the history as well, as a run of a server is a run of its hub.

* `Server.follows_history`: after every run, the hub is what the history of the run makes of it.
* `Server.delivered_eq`: the client of a quiet session has received the frames that the history
  tells.
* `Server.readAll_delivered`: it reads the packets in them.
-/

namespace ChatLobby

open History

/-! ## Arrivals and ends

A connection is made and started in one move, so that a pending one is never seen. -/

/-- The connection that is made for a client at `peer`. -/
def Connection.arrived (sizing : ReceiveSizing) (peer : SocketAddress) : Connection Session :=
  { ({ sizing, session := {} } : Connection Session).enter .connected with
    peer := some peer
    cursor := .ofCapacity sizing.bufferSize }

namespace Hub

variable {p : FramePolicy} {past : History} {h : Hub Lobby Session} {i : ConnectionId}

/-- **What the acceptor does with a client**: a connection more, which is connected, and nothing
else. -/
theorem create_start (h : Hub Lobby Session) (sizing : ReceiveSizing) (peer : SocketAddress) :
    ∃ h', (h.create sizing {}).2.start h.nextId peer = .ok h' ∧ h'.shared = h.shared ∧
      h'.connections.length = h.connections.length + 1 ∧
      ∀ j, h'.connection? j =
        if j = h.nextId then some (.arrived sizing peer) else h.connection? j := by
  have hnew : (h.create sizing {}).2.connection? h.nextId =
      some ({ sizing, session := {} } : Connection Session) := by
    show (h.connections ++ [_])[h.connections.length]? = _
    exact List.getElem?_concat_length
  have hstart : (h.create sizing {}).2.start h.nextId peer =
      .ok ((h.create sizing {}).2.modify h.nextId fun _ => .arrived sizing peer) := by
    rw [Hub.start, hnew]
    rfl
  refine ⟨_, hstart, rfl, ?_, fun j => ?_⟩
  · rw [length_modify]
    exact List.length_append
  · by_cases hj : j = h.nextId
    · rw [if_pos hj, hj, connection?_modify_self _ hnew]
    · rw [if_neg hj, connection?_modify_of_ne _ hj]
      have hindex : j.index ≠ h.connections.length := ConnectionId.index_ne hj
      show (h.connections ++ [_])[j.index]? = h.connections[j.index]?
      rcases Nat.lt_or_gt_of_ne hindex with hlt | hgt
      · exact List.getElem?_append_left hlt
      · rw [List.getElem?_eq_none (by rw [List.length_append, List.length_singleton]; omega),
          List.getElem?_eq_none (Nat.le_of_lt hgt)]

/-- **A connection arrives.** -/
theorem Follows.arrived (hf : h.Follows p past) {h' : Hub Lobby Session} {sizing : ReceiveSizing}
    {peer : SocketAddress} (hshared : h'.shared = h.shared)
    (hlength : h'.connections.length = h.connections.length + 1)
    (hconnections : ∀ j,
      h'.connection? j = if j = h.nextId then some (.arrived sizing peer) else h.connection? j) :
    h'.Follows p (.arrived :: past) := by
  refine ⟨hf.possible.cons trivial, ?_, ?_, fun j d hd => ?_, ?_, ?_, fun j => ?_⟩
  · rw [hshared]
    exact hf.policy_eq
  · rw [hlength, hf.length_eq, arrivals_cons_arrived]
  · rw [hconnections] at hd
    split at hd
    · next hj =>
      cases hd
      exact .fresh hf.possible (by rw [hj]; exact hf.length_eq) rfl rfl rfl rfl
    · exact (hf.tracks j d hd).cons_of_ne (hf.index_lt hd) (by rintro ⟨⟩)
  · rw [hshared]
    exact hf.rooms
  · rw [hshared]
    exact hf.nodup_registry
  · rw [hshared, hf.mem_registry_iff]
    simp

theorem act_close_of_none (hnone : h.connection? i = none) : (h.act (Action.close i)).2 = h := by
  have hout : h.connections.length ≤ i.index := List.getElem?_eq_none_iff.mp hnone
  rw [act_close, Hub.modify, List.modify_eq_self hout]

theorem Follows.askedAll (hf : h.Follows p past) (ids : List ConnectionId)
    (hids : ∀ i ∈ ids, i.index < past.arrivals) :
    (ids.foldl (fun h i => (h.act (Action.close i)).2) h).Follows p
      ((ids.map .asked).reverse ++ past) := by
  induction ids generalizing h past with
  | nil => exact hf
  | cons i ids ih =>
    obtain ⟨c, hc⟩ := exists_connection? (h := h) (i := i)
      (by rw [hf.length_eq]; exact hids i List.mem_cons_self)
    rw [List.foldl_cons, List.map_cons, List.reverse_cons, List.append_assoc]
    refine ih (hf.asked hc) fun j hj => ?_
    exact Nat.lt_of_lt_of_le (hids j (List.mem_cons_of_mem _ hj)) (arrivals_le_cons ..)

end Hub

/-! ## Moves and runs

A move of a server is in its hub what `Following` says of it.  Moves of connections that are not
there, or that may not do what the move says, are no moves, and nothing happens in them. -/

namespace Server

variable {p : FramePolicy} {past : History} {s : Server} {m : Move} {e : Happening}
  {i : ConnectionId} {c : Connection Session} {progress : Progress}

/-- The server has the handler of its lobby. -/
theorem handler_eq (hf : s.hub.Follows p past) : s.handler = Lobby.handler p := by
  rw [handler, lobby, hf.policy_eq]

theorem index_lt_of_registered (hf : s.hub.Follows p past) :
    ∀ i ∈ s.lobby.registry.ids, i.index < past.arrivals := by
  intro i hi
  exact hf.possible.index_lt_of_mem ((hf.mem_registry_iff i).mp hi).1 rfl

/-- In the hub, such a move is what the connection does. -/
theorem move_progress (hf : s.hub.Follows p past) (hc : s.hub.connection? i = some c)
    (hmay : c.MayDo progress) (pace : Pace) :
    (s.move (.progress i progress pace)).hub = s.hub.advance (Lobby.handler p) pace i progress := by
  rw [← handler_eq hf]
  show s.hub.move s.handler (.progress i progress pace) = _
  rw [Hub.move, hc]
  exact if_pos hmay

/-- That the connection has ended is known without running the move. -/
theorem happenings_progress (hf : s.hub.Follows p past) (hc : s.hub.connection? i = some c)
    (hmay : c.MayDo progress) (pace : Pace) :
    s.happenings (.progress i progress pace) = s.hub.happenings i c pace progress ++
      if (c.advanced p pace progress).2.isSome then [.dismissed i] else [] := by
  rw [happenings, hc, move_progress hf hc hmay]
  simp only [if_pos hmay, hf.phase?_advance hc hmay pace]

/-- Nothing happens if the connection may not do that. -/
theorem move_progress_of_not (h : ∀ c, s.hub.connection? i = some c → ¬ c.MayDo progress)
    (pace : Pace) : s.move (.progress i progress pace) = s ∧
      s.happenings (.progress i progress pace) = [] := by
  have hstays : (s.hub.move s.handler (.progress i progress pace)) = s.hub := by
    rw [Hub.move]
    split
    · next c hc => exact if_neg (h c hc)
    · rfl
  refine ⟨?_, ?_⟩
  · show { s with hub := s.hub.move s.handler (.progress i progress pace) } = s
    rw [hstays]
  · rw [happenings]
    split
    · next c hc => exact if_neg (h c hc)
    · rfl

/-- The case of `follows_move` in which a connection does something by itself. -/
theorem follows_progress (hf : s.hub.Follows p past) (i : ConnectionId) (progress : Progress)
    (pace : Pace) : (s.move (.progress i progress pace)).hub.Follows p
      ((s.happenings (.progress i progress pace)).reverse ++ past) := by
  by_cases hmay : ∃ c, s.hub.connection? i = some c ∧ c.MayDo progress
  · obtain ⟨c, hc, hmay⟩ := hmay
    have hadvance := (hf.advance hc hmay pace).follows
    rw [move_progress hf hc hmay, happenings_progress hf hc hmay, List.reverse_append,
      List.append_assoc]
    split
    · next hends =>
      rw [if_pos hends] at hadvance
      exact hadvance
    · next hends =>
      rw [if_neg hends] at hadvance
      exact hadvance
  · obtain ⟨hmove, hhappenings⟩ :=
      move_progress_of_not (fun c hc h => hmay ⟨c, hc, h⟩) pace
    rw [hmove, hhappenings]
    exact hf

/-- A client connects while the server accepts. -/
theorem move_connect (hrunning : s.acceptor = .running) (peer : SocketAddress) :
    ∃ h, s.move (.connect peer) = { s with hub := h } ∧ h.shared = s.hub.shared ∧
      h.connections.length = s.hub.connections.length + 1 ∧
      ∀ j, h.connection? j =
        if j = s.hub.nextId then some (.arrived s.sizing peer) else s.hub.connection? j := by
  obtain ⟨h, hstart, hrest⟩ := s.hub.create_start s.sizing peer
  refine ⟨h, ?_, hrest⟩
  rw [move, accept, hrunning]
  simp only [Hub.create] at hstart ⊢
  rw [hstart]

theorem accept_of_ne (hrunning : s.acceptor ≠ .running) (peer : SocketAddress) :
    s.accept peer = (none, s) := by
  rw [accept]
  split
  · contradiction
  · rfl

theorem move_connect_of_ne (hrunning : s.acceptor ≠ .running) (peer : SocketAddress) :
    s.move (.connect peer) = s := by
  rw [move, accept_of_ne hrunning]

/-- **Every move carries the history on.** -/
theorem follows_move (hf : s.hub.Follows p past) (m : Move) :
    (s.move m).hub.Follows p ((s.happenings m).reverse ++ past) := by
  cases m with
  | connect peer =>
    rw [happenings]
    by_cases hrunning : s.acceptor = .running
    · obtain ⟨h, hmove, hshared, hlength, hconnections⟩ := s.move_connect hrunning peer
      rw [hmove, if_pos hrunning]
      exact hf.arrived hshared hlength hconnections
    · rw [s.move_connect_of_ne hrunning, if_neg hrunning]
      exact hf
  | peerSends i data =>
    refine hf.modify fun c _ => ?_
    rw [Connection.peerSends_eq]
    exact ⟨rfl, rfl, rfl, rfl⟩
  | peerEnds i how =>
    refine hf.modify fun c _ => ?_
    rw [Connection.peerEnds_eq]
    exact ⟨rfl, rfl, rfl, rfl⟩
  | disconnect i =>
    rw [happenings]
    cases hc : s.hub.connection? i with
    | none =>
      show (s.hub.act (Action.close i)).2.Follows p past
      rw [Hub.act_close_of_none hc]
      exact hf
    | some c => exact hf.asked hc
  | disconnectAll | shutdown =>
    show (s.hub.act (Action.count Action.close s.lobby.registry.ids)).2.Follows p
      ((s.lobby.registry.ids.map .asked).reverse ++ past)
    rw [Hub.act_count]
    exact hf.askedAll _ (index_lt_of_registered hf)
  | progress i progress pace =>
    exact follows_progress hf i progress pace

/-! ### Moves of one connection -/

/-- A move of one connection is within that connection. -/
theorem within_move (hf : s.hub.Follows p past) (hm : m.subject? = some i) :
    s.hub.Within i (s.move m).hub := by
  cases m with
  | connect peer | disconnectAll | shutdown => cases hm
  | peerSends j data =>
    cases hm
    exact Hub.within_modify ..
  | peerEnds j how =>
    cases hm
    exact Hub.within_modify ..
  | disconnect j =>
    cases hm
    exact Hub.within_act ..
  | progress j progress pace =>
    cases hm
    by_cases hmay : ∃ c, s.hub.connection? i = some c ∧ c.MayDo progress
    · obtain ⟨c, hc, hmay⟩ := hmay
      rw [move_progress hf hc hmay]
      exact (hf.advance hc hmay pace).within
    · rw [(move_progress_of_not (fun c hc h => hmay ⟨c, hc, h⟩) pace).1]
      exact .refl s.hub i

theorem subject?_of_mem_hub_happenings {h : Hub Lobby Session} {pace : Pace}
    (he : e ∈ h.happenings i c pace progress) : e.subject? = some i := by
  cases progress <;> grind [Hub.happenings, Happening.subject?]

theorem subject?_of_mem_happenings (hm : m.subject? = some i) (he : e ∈ s.happenings m) :
    e.subject? = some i := by
  cases m with
  | connect peer | disconnectAll | shutdown => cases hm
  | peerSends | peerEnds => exact absurd he List.not_mem_nil
  | disconnect j =>
    cases hm
    grind [happenings, Happening.subject?]
  | progress j progress pace =>
    cases hm
    grind [happenings, Happening.subject?, subject?_of_mem_hub_happenings]

/-! ### Runs -/

/-- By induction over the moves, from any hub that follows its past. -/
theorem follows_run (hf : s.hub.Follows p past) (moves : List Move) :
    (s.run moves).hub.Follows p (s.historyFrom past moves) := by
  induction moves generalizing s past with
  | nil => exact hf
  | cons m moves ih => exact ih (follows_move hf m)

/-- **After every run, the hub is what the history of the run makes of it.** -/
theorem follows_history (address : SocketAddress) (sizing : ReceiveSizing) (capacity : Nat)
    (p : FramePolicy) (moves : List Move) :
    ((opened address sizing capacity p).run moves).hub.Follows p
      ((opened address sizing capacity p).history moves) :=
  follows_run (.nil capacity p) moves

/-! ## What clients received

What a client received is told by its socket, and the server knows nothing of that.  So the run is
told once more, as a run of the hub, where sending was followed (`Handler.log_faithful`).  A session
that is connected and has nothing left to do has then delivered all that it accepted, and what it
accepted is known from the history. -/

/-- The moves of the hub that a move of the server consists of. -/
def hubMovesOf (s : Server) : Move → List (ChatLobby.Move Session)
  | .connect peer =>
    match s.acceptor with
    | .running => [.create s.sizing {}, .start s.hub.nextId peer]
    | .stopped | .failed _ => []
  | .peerSends i data => [.peerSends i data]
  | .peerEnds i how => [.peerEnds i how]
  | .disconnect i => [.disconnect i]
  | .disconnectAll | .shutdown => s.lobby.registry.ids.map .disconnect
  | .progress i progress pace => [.progress i progress pace]

/-- The moves of the hub that a run of the server consists of. -/
def hubMoves (s : Server) : List Move → List (ChatLobby.Move Session)
  | [] => []
  | m :: moves => s.hubMovesOf m ++ (s.move m).hubMoves moves

/-- A move of a server is a few moves of its hub, or one, or none. -/
theorem hub_move (hf : s.hub.Follows p past) (m : Move) :
    (s.move m).hub = s.hub.run (Lobby.handler p) (s.hubMovesOf m) := by
  rw [← handler_eq hf]
  cases m with
  | connect peer =>
    rw [move, accept, hubMovesOf]
    cases hstate : s.acceptor with
    | running =>
      obtain ⟨h', hstart, -⟩ := s.hub.create_start s.sizing peer
      show _ = ((s.hub.create s.sizing {}).2.start s.hub.nextId peer).toOption.getD _
      simp only [Hub.create] at hstart ⊢
      rw [hstart]
      rfl
    | stopped | failed => rfl
  | peerSends | peerEnds | disconnect | progress => rfl
  | disconnectAll | shutdown =>
    rw [hubMovesOf, Hub.run, List.foldl_map]
    exact s.hub.act_count Action.close s.lobby.registry.ids

/-- **A run of a server is a run of its hub.** -/
theorem hub_run (hf : s.hub.Follows p past) (moves : List Move) :
    (s.run moves).hub = s.hub.run (Lobby.handler p) (s.hubMoves moves) := by
  induction moves generalizing s past with
  | nil => rfl
  | cons m moves ih =>
    rw [hubMoves, Hub.run_append, ← hub_move hf m]
    exact ih (follows_move hf m)

/-- Settling makes one move of the first connection that is busy, and goes on. -/
theorem settle_succ (hf : s.hub.Follows p past) (hbusy : s.hub.busy? = some (i, progress))
    (fuel : Nat) : s.settle (fuel + 1) = (s.move (.progress i progress {})).settle fuel := by
  obtain ⟨c, hc, hnext⟩ := Hub.exists_of_busy? hbusy
  have hf' := follows_move hf (.progress i progress {})
  have hhub := move_progress hf hc (Connection.mayDo_of_next? hnext) {}
  rw [settle, settle, handler_eq hf, handler_eq hf', hhub, Hub.settle, hbusy]
  rfl

theorem settle_of_quiet (hbusy : s.hub.busy? = none) (fuel : Nat) : s.settle fuel = s := by
  cases fuel with
  | zero => rfl
  | succ fuel => rw [settle, Hub.settle, hbusy]

/-- **What a server does until it is quiet is a run.** -/
theorem settle_eq_run (hf : s.hub.Follows p past) (fuel : Nat) :
    ∃ moves, s.settle fuel = s.run moves := by
  induction fuel generalizing s past with
  | zero => exact ⟨[], rfl⟩
  | succ fuel ih =>
    cases hbusy : s.hub.busy? with
    | none => exact ⟨[], settle_of_quiet hbusy _⟩
    | some busy =>
      obtain ⟨i, progress⟩ := busy
      obtain ⟨moves, hmoves⟩ := ih (follows_move hf (.progress i progress {}))
      exact ⟨.progress i progress {} :: moves, (settle_succ hf hbusy fuel).trans hmoves⟩

variable {address : SocketAddress} {sizing : ReceiveSizing} {capacity : Nat} {moves : List Move}

/-- The connections after a run, with a log of what the lobby was told of each. -/
def logged (address : SocketAddress) (sizing : ReceiveSizing) (capacity : Nat) (p : FramePolicy)
    (moves : List Move) : Hub Lobby (Logged Call Session) :=
  (Lobby.handler p).recorded.log ((opened address sizing capacity p).hubMoves moves)
    (.ofCapacity capacity p)

theorem forget_logged (address : SocketAddress) (sizing : ReceiveSizing) (capacity : Nat)
    (p : FramePolicy) (moves : List Move) :
    (logged address sizing capacity p moves).forget =
      ((opened address sizing capacity p).run moves).hub := by
  rw [hub_run (s := opened address sizing capacity p) (.nil capacity p) moves]
  exact (Lobby.handler p).logs_recorded.log_forget _ (.ofCapacity capacity p)

/-- Every connection has its counterpart with a log. -/
theorem exists_connection?_logged
    (hc : ((opened address sizing capacity p).run moves).hub.connection? i = some c) :
    ∃ d, (logged address sizing capacity p moves).connection? i = some d ∧ c = d.forget := by
  rw [← forget_logged, Hub.connection?_forget] at hc
  obtain ⟨d, hd, hforget⟩ := Option.map_eq_some_iff.mp hc
  exact ⟨d, hd, hforget.symm⟩

/-- What is known of sending is known of the connections of a server. -/
theorem exists_logged
    (hc : ((opened address sizing capacity p).run moves).hub.connection? i = some c) :
    ∃ d : Connection (Logged Call Session), c = d.forget ∧ d.Faithful ∧
      (d.phase ≠ .disconnected → d.Attended ∧ d.Balanced) := by
  obtain ⟨d, hd, hforget⟩ := exists_connection?_logged hc
  exact ⟨d, hforget, (Lobby.handler p).log_faithful _ _ hd⟩

/-- No batch has empty payloads in it. -/
theorem nil_notMem_batch
    (hc : ((opened address sizing capacity p).run moves).hub.connection? i = some c) :
    [] ∉ c.sender.batch := by
  obtain ⟨d, rfl, hfaithful, -⟩ := exists_logged hc
  exact hfaithful.batch

/-- The client of a session that goes on and has nothing left to do has received all that was
accepted. -/
theorem delivered_eq_accepted
    (hc : ((opened address sizing capacity p).run moves).hub.connection? i = some c)
    (hphase : c.phase = .connected) (hquiet : c.next? = none) :
    c.socket.delivered = c.accepted.flatten := by
  obtain ⟨d, rfl, -, hgoes⟩ := exists_logged hc
  obtain ⟨hattended, hbalanced⟩ := hgoes (by rw [show d.phase = .connected from hphase]; decide)
  -- a quiet connection has written everything
  exact (hbalanced.of_not_isActive hattended (Connection.idle_of_next? hphase hquiet)).1

/-- **What a client received is what its history tells.** -/
theorem delivered_eq
    (hc : ((opened address sizing capacity p).run moves).hub.connection? i = some c)
    (hphase : c.phase = .connected) (hquiet : c.next? = none) :
    c.socket.delivered = (ServerPacket.frames p
      (sentTo i ((opened address sizing capacity p).history moves))).flatten := by
  rw [delivered_eq_accepted hc hphase hquiet,
    ((follows_history address sizing capacity p moves).tracks i c hc).accepted_eq]

/-- **A client reads the packets that its history tells.** -/
theorem readAll_delivered {q : FramePolicy}
    (hfits : p.headerLength + ServerPacket.longestPresence ≤ p.maxFrame) (hq : q.Reads p)
    (hc : ((opened address sizing capacity p).run moves).hub.connection? i = some c)
    (hphase : c.phase = .connected) (hquiet : c.next? = none) :
    ServerPacket.readAll q c.socket.delivered =
      sentTo i ((opened address sizing capacity p).history moves) := by
  have hp := (follows_history address sizing capacity p moves).possible
  rw [delivered_eq hc hphase hquiet]
  apply ServerPacket.readAll_frames hq
  · intro packet hmem
    exact hp.small_of_mem_sentTo hmem
  · intro packet hmem
    exact hp.exists_encode_of_mem_sentTo hfits hmem

end Server

end ChatLobby
