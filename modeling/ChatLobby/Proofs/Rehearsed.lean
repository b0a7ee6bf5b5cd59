import ChatLobby.Proofs.ServerHistory
import ChatLobby.Rehearsal.Accepting
import ChatLobby.Rehearsal.Groups
import ChatLobby.Rehearsal.Serving

/-!
# Rehearsals are runs

A rehearsal shows what a program does, and the other theorems here say what runs do.  Both are the
same: each step of a rehearsal does something to connections or to their peers and lets them get
quiet, and all of that are moves.  So a rehearsal leads from where it begins to where it ends by a
run (`Hub.Reaches`, `Server.Reaches`), and whatever holds in every run holds in what was rehearsed.

* `rehearse_keeps`: what each step keeps, a rehearsal keeps.
* `Single.run_reaches`, `Groups.run_reaches`, `Accepting.run_reaches`: rehearsals of connections.
* `Serving.run_reaches`: rehearsals of a server that was bound.
-/

namespace ChatLobby

variable {σ τ α : Type}

/-! ## Leading from one state to another

To be led by runs is reflexive and transitive, as runs can be put one behind the other. -/

namespace Hub

/-- `h.Reaches handler h'`: a run leads from `h` to `h'`. -/
def Reaches (handler : Handler σ τ) (h h' : Hub σ τ) : Prop := ∃ moves, h' = h.run handler moves

variable {handler : Handler σ τ} {h h' h'' : Hub σ τ}

theorem Reaches.refl (h : Hub σ τ) : h.Reaches handler h := ⟨[], rfl⟩

theorem Reaches.trans (h₁ : h.Reaches handler h') (h₂ : h'.Reaches handler h'') :
    h.Reaches handler h'' := by
  obtain ⟨moves, rfl⟩ := h₁
  obtain ⟨more, rfl⟩ := h₂
  exact ⟨moves ++ more, (run_append handler moves more h).symm⟩

theorem reaches_move (handler : Handler σ τ) (h : Hub σ τ) (m : Move τ) :
    h.Reaches handler (h.move handler m) :=
  ⟨[m], rfl⟩

theorem reaches_settle (h : Hub σ τ) (fuel : Nat) : h.Reaches handler (h.settle handler fuel) :=
  settle_eq_run handler fuel h

/-- **Actions are moves**, one for each thing that is done. -/
theorem reaches_act (h : Hub σ τ) (a : Action α) : h.Reaches handler (h.act a).2 := by
  induction a generalizing h with
  | done x => exact .refl h
  -- -- the first step is a move, and the action goes on with its answer
  | send target data next ih =>
    have hact : h.act (Action.sendTo target data >>= next) = _ := h.act_bind _ next
    have hfirst : h.Reaches handler (h.act (Action.sendTo target data)).2 :=
      h.reaches_move handler (.send target data)
    rw [show Action.send target data next = Action.sendTo target data >>= next from rfl, hact]
    exact hfirst.trans (ih _ _)
  | disconnect target next ih =>
    have hact : h.act (Action.close target >>= next) = _ := h.act_bind _ next
    have hfirst : h.Reaches handler (h.act (Action.close target)).2 :=
      h.reaches_move handler (.disconnect target)
    rw [show Action.disconnect target next = Action.close target >>= next from rfl, hact]
    exact hfirst.trans (ih _ _)

end Hub

/-- A run leads from `s` to `s'`. -/
def Server.Reaches (s s' : Server) : Prop := ∃ moves, s' = s.run moves

theorem Server.Reaches.refl (s : Server) : s.Reaches s := ⟨[], rfl⟩

theorem Server.Reaches.trans {s s' s'' : Server} (h : s.Reaches s') (h' : s'.Reaches s'') :
    s.Reaches s'' := by
  obtain ⟨moves, rfl⟩ := h
  obtain ⟨more, rfl⟩ := h'
  exact ⟨moves ++ more, (s.run_append moves more).symm⟩

theorem Server.reaches_move (s : Server) (m : Move) : s.Reaches (s.move m) := ⟨[m], rfl⟩

namespace Rehearsal

section Rehearse

variable {stage step outcome : Type} {perform : stage → step → Except SystemError (outcome × stage)}
  {s s' : stage} {steps : List step} {outcomes : List outcome}

/-- **What each step keeps, a rehearsal keeps.** -/
theorem rehearse_keeps {P : stage → Prop}
    (hstep : ∀ s i o s', perform s i = .ok (o, s') → P s → P s')
    (h : rehearse perform s steps = .ok (outcomes, s')) (hs : P s) : P s' := by
  -- -- each step starts where the one before has left off, if that has worked
  induction steps generalizing s outcomes with
  | nil =>
    cases h
    exact hs
  | cons i steps ih =>
    obtain ⟨⟨outcome, t⟩, hfirst, h⟩ := exists_of_bind_eq_ok h
    obtain ⟨⟨more, u⟩, hrest, h⟩ := exists_of_bind_eq_ok h
    cases h
    exact ih hrest (hstep s i outcome t hfirst hs)

theorem exists_rehearse (h : (rehearse perform s steps).map (·.1) = .ok outcomes) :
    ∃ s', rehearse perform s steps = .ok (outcomes, s') := by
  cases hall : rehearse perform s steps with
  | error cause =>
    rw [hall] at h
    cases h
  | ok all =>
    rw [hall] at h
    cases h
    exact ⟨all.2, rfl⟩

end Rehearse

/-! ## One connection -/

/-- Starting a connection is a move, whether or not that works. -/
theorem reaches_start (handler : Handler Unit Notes) (hub : Hub Unit Notes) (i : ConnectionId)
    (peer : SocketAddress) : hub.Reaches handler ((hub.start i peer).toOption.getD hub) :=
  hub.reaches_move handler (.start i peer)

namespace Single

variable {host : Host} {handler : Handler Unit Notes} {hub hub' : Hub Unit Notes} {s s' : Stage}
  {step : Step}

/-- To start the connection is a move, or nothing if it had been started. -/
theorem startOn_reaches (hub : Hub Unit Notes) : hub.Reaches handler (startOn hub).2 := by
  have hstarted := reaches_start handler hub only (loopback Host.anyPort)
  rw [startOn]
  cases hstart : hub.start only (loopback Host.anyPort) with
  | error cause => exact .refl hub
  | ok started =>
    rw [hstart] at hstarted
    exact hstarted

/-- A step does at most one thing to the connection or to its peer. -/
theorem perform_reaches {answer : Answer} (h : perform host hub step = .ok (answer, hub')) :
    hub.Reaches handler hub' := by
  cases step with
  | attach =>
    obtain ⟨_, -, h⟩ := exists_of_bind_eq_ok h
    cases h
    exact startOn_reaches hub
  | connect refused =>
    rw [perform] at h
    split at h
    · cases h
      exact .refl hub
    · split at h
      · cases h
        exact .refl hub
      · cases h
        exact startOn_reaches hub
  | write data =>
    cases h
    split
    · exact hub.reaches_move _ (.peerSends only data)
    · exact .refl hub
  | send payloads =>
    cases h
    exact hub.reaches_act _
  | disconnect times =>
    cases h
    exact hub.reaches_act _
  | close =>
    cases h
    exact hub.reaches_move _ (.peerEnds only .finished)
  | reset =>
    cases h
    exact hub.reaches_move _ (.peerEnds only .reset)
  | describe =>
    cases h
    exact .refl hub

/-- After a step the hub is left to settle. -/
theorem step_reaches {outcome : Outcome} (h : s.step host handler step = .ok (outcome, s')) :
    s.hub.Reaches handler s'.hub := by
  obtain ⟨⟨answer, hub⟩, hperform, h⟩ := exists_of_bind_eq_ok h
  dsimp only at h
  split at h
  · cases h
    exact (perform_reaches hperform).trans (hub.reaches_settle patience)
  · cases h

/-- **A rehearsal of a connection is a run** of the hub that it is in. -/
theorem run_reaches {sizing : ReceiveSizing} {steps : List Step} {outcomes : List Outcome}
    (h : run host handler (.ofSizing sizing) steps = .ok outcomes) :
    ∃ stage, rehearse (Stage.step host handler) (.ofSizing sizing) steps = .ok (outcomes, stage) ∧
      Hub.Reaches handler { shared := () } stage.hub := by
  obtain ⟨stage, hall⟩ := exists_rehearse h
  refine ⟨stage, hall, ?_⟩
  refine rehearse_keeps (P := fun s => Hub.Reaches handler { shared := () } s.hub)
    (fun _ _ _ _ hstep hs => hs.trans (step_reaches hstep)) hall ?_
  exact Hub.reaches_move handler { shared := () } (.create sizing {})

end Single

/-! ## Rooms and registries

The members of rooms and registries are connections of one hub.  The groups themselves are kept
beside it, so that most steps leave the hub as it is. -/

namespace Groups

variable {host : Host} {s s' : Stage} {step : Step}

theorem hub_setRoom (s : Stage) (name : String) (room : Room) :
    (s.setRoom name room).hub = s.hub := by
  rw [Stage.setRoom]
  split <;> rfl

/-- Only making connections, ending them and broadcasting change any; what groups are told is not
told to the connections. -/
theorem perform_reaches {answer : Answer} (h : s.perform host step = .ok (answer, s')) :
    s.hub.Reaches Script.minimalBytes s'.hub := by
  cases step with
  | make start =>
    have hmade := s.hub.reaches_move Script.minimalBytes (.create {} {})
    rw [Stage.perform] at h
    dsimp only at h
    split at h
    · obtain ⟨_, -, h⟩ := exists_of_bind_eq_ok h
      cases h
      exact hmade.trans (reaches_start ..)
    · cases h
      exact hmade
  | disconnect i =>
    cases h
    exact s.hub.reaches_act _
  | close i =>
    cases h
    exact s.hub.reaches_move _ (.peerEnds i .finished)
  | roomEnter room i =>
    cases h
    rw [hub_setRoom]
    exact .refl s.hub
  | roomLeave room i =>
    injection h with h
    split at h
    · cases h
      rw [hub_setRoom]
      exact .refl s.hub
    · cases h
      exact .refl s.hub
  | directoryHold | registryInsert =>
    injection h with h
    split at h <;> cases h <;> exact .refl s.hub
  | roomBroadcast | directoryBroadcast | registryBroadcast =>
    cases h
    exact s.hub.reaches_act _
  | roomContains | directoryEnter | directoryLeave | directoryGet | registryRemove | registryGet =>
    cases h
    exact .refl s.hub

theorem step_reaches {outcome : Outcome} (h : s.step host step = .ok (outcome, s')) :
    s.hub.Reaches Script.minimalBytes s'.hub := by
  obtain ⟨⟨answer, after⟩, hperform, h⟩ := exists_of_bind_eq_ok h
  cases h
  exact (perform_reaches hperform).trans (after.hub.reaches_settle patience)

/-- **A rehearsal of rooms and registries is a run** of the hub that their members are in. -/
theorem run_reaches {steps : List Step} {outcomes : List Outcome}
    (h : run host s steps = .ok outcomes) :
    ∃ stage, rehearse (Stage.step host) s steps = .ok (outcomes, stage) ∧
      s.hub.Reaches Script.minimalBytes stage.hub := by
  obtain ⟨stage, hall⟩ := exists_rehearse h
  exact ⟨stage, hall, rehearse_keeps (P := fun t => s.hub.Reaches Script.minimalBytes t.hub)
    (fun _ _ _ _ hstep hs => hs.trans (step_reaches hstep)) hall (.refl s.hub)⟩

end Groups

/-! ## An acceptor

An acceptor makes connections, which may have been spent by their maker before they are started. -/

namespace Accepting

variable {host : Host} {spent : Bool} {s s' : Stage} {step : Step}

theorem takeIn_reaches (spent : Bool) (hub : Hub Unit Notes) :
    hub.Reaches Script.minimalBytes (takeIn spent hub).2 := by
  have hmade := hub.reaches_move Script.minimalBytes (.create {} {})
  rw [takeIn]
  have hready : hub.Reaches Script.minimalBytes
      (if spent then ((hub.create {} {}).2.act (Action.close (hub.create {} {}).1)).2
        else (hub.create {} {}).2) := by
    split
    · exact hmade.trans (Hub.reaches_act _ _)
    · exact hmade
  have hstarted := hready.trans
    (reaches_start _ _ (hub.create {} {}).1 (loopback Host.anyPort))
  dsimp only
  split
  · next started hstart =>
    rw [hstart] at hstarted
    exact hstarted.trans (started.reaches_settle patience)
  · exact hready

theorem step_reaches {outcome : Outcome} (h : s.step host spent step = .ok (outcome, s')) :
    s.hub.Reaches Script.minimalBytes s'.hub := by
  obtain ⟨⟨answer, after⟩, hperform, h⟩ := exists_of_bind_eq_ok h
  cases h
  cases step with
  | shutdown | «break» =>
    cases hperform
    exact .refl s.hub
  | connect | starve =>
    obtain ⟨_, -, hperform⟩ := exists_of_bind_eq_ok hperform
    split at hperform
    · cases hperform
      exact .refl s.hub
    · cases hperform
      exact takeIn_reaches spent s.hub

/-- **A rehearsal of an acceptor is a run** of the hub that it makes connections in. -/
theorem run_reaches {steps : List Step} {outcomes : List Outcome}
    (h : run host spent s steps = .ok outcomes) :
    ∃ stage, rehearse (Stage.step host spent) s steps = .ok (outcomes, stage) ∧
      s.hub.Reaches Script.minimalBytes stage.hub := by
  obtain ⟨stage, hall⟩ := exists_rehearse h
  exact ⟨stage, hall, rehearse_keeps (P := fun t => s.hub.Reaches Script.minimalBytes t.hub)
    (fun _ _ _ _ hstep hs => hs.trans (step_reaches hstep)) hall (.refl s.hub)⟩

end Accepting

/-! ## A server

The moves of a server ask for what the lobby answers, so that settling is known to be a run only
from where a run has led. -/

namespace Serving

variable {host : Host} {watched : List String} {s s' : Stage} {step : Step}

/-- What is done to the connection of a client is done to one connection, or to none. -/
theorem modifyClient_reaches (server : Server) (c : Client)
    {f : Connection Session → Connection Session} (m : ConnectionId → Server.Move)
    (hm : ∀ i, server.move (m i) = { server with hub := server.hub.modify i f }) :
    server.Reaches (modifyClient server c f) := by
  rw [modifyClient]
  split
  · next i _ =>
    rw [← hm i]
    exact server.reaches_move (m i)
  · exact .refl server

/-- A client that leaves ends one connection, or none if it had left before. -/
theorem leave_reaches (s : Stage) (client : Nat) (how : RemoteSide) :
    s.server.Reaches (s.leave client how).server := by
  rw [Stage.leave]
  split
  · exact .refl s.server
  · exact modifyClient_reaches s.server _ (.peerEnds · how) fun _ => rfl

/-- A step is a move of the server, or none. -/
theorem perform_reaches {answer : Answer} (h : s.perform host step = .ok (answer, s')) :
    s.server.Reaches s'.server := by
  cases step with
  | connect =>
    obtain ⟨_, -, h⟩ := exists_of_bind_eq_ok h
    cases h
    exact s.server.reaches_move (.connect (loopback Host.anyPort))
  | send client packets data =>
    injection h with h
    split at h
    · cases h
      exact .refl s.server
    · split at h
      · cases h
        exact .refl s.server
      · cases h
        exact modifyClient_reaches s.server _ (.peerSends · (encodeAll packets ++ data)) fun _ => rfl
  | close client =>
    cases h
    exact leave_reaches s client .finished
  | reset client =>
    cases h
    exact leave_reaches s client .reset
  | disconnectAll =>
    cases h
    exact s.server.reaches_move .disconnectAll
  | shutdown =>
    cases h
    exact s.server.reaches_move .shutdown

variable {address : SocketAddress} {sizing : ReceiveSizing} {capacity : Nat} {p : FramePolicy}

/-- A server settles by a run, once a run has led to it. -/
theorem step_reaches {outcome : Outcome} (h : s.step host watched step = .ok (outcome, s'))
    (hs : (Server.opened address sizing capacity p).Reaches s.server) :
    (Server.opened address sizing capacity p).Reaches s'.server := by
  obtain ⟨⟨answer, after⟩, hperform, h⟩ := exists_of_bind_eq_ok h
  cases h
  obtain ⟨moves, hafter⟩ := hs.trans (perform_reaches hperform)
  have hf := Server.follows_history address sizing capacity p moves
  rw [← hafter] at hf
  exact .trans ⟨moves, hafter⟩ (Server.settle_eq_run hf patience)

/-- **A rehearsal of a server is a run** of it, once the server was bound. -/
theorem run_reaches {settings : Settings} {server : Server}
    (hbind : Server.bind host settings = .ok server) {steps : List Step} {outcomes : List Outcome}
    (h : run host watched { server } steps = .ok outcomes) :
    ∃ stage address moves,
      rehearse (Stage.step host watched) { server } steps = .ok (outcomes, stage) ∧
        stage.server = (Server.opened address settings.receiveSizing
          settings.server.maxConnections.toNat settings.framePolicy).run moves := by
  obtain ⟨stage, hall⟩ := exists_rehearse h
  obtain ⟨address, rfl⟩ := Server.eq_opened_of_bind hbind
  obtain ⟨moves, hmoves⟩ := rehearse_keeps
    (P := fun s : Stage => (Server.opened address settings.receiveSizing
      settings.server.maxConnections.toNat settings.framePolicy).Reaches s.server)
    (fun _ _ _ _ => step_reaches) hall (.refl _)
  exact ⟨stage, address, moves, hall, hmoves⟩

end Serving

end Rehearsal

end ChatLobby
