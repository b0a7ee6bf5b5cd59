import ChatLobby.Registry
import ChatLobby.Rehearsal.Single
import ChatLobby.Room

/-!
# Rehearsing rooms and registries

Connections, rooms under names, a directory of rooms and a registry, step by step.  A room of the
directory can be kept under a name; as long as the directory lists it, the name and the directory
mean the same room.
-/

namespace ChatLobby.Rehearsal.Groups

/-- A room under a name. -/
inductive NamedRoom where
  /-- A room of its own. -/
  | own (room : Room)
  /-- The room that the directory lists for a key. -/
  | listed (key : String)
  deriving DecidableEq, Repr

/-- A rehearsal of rooms. -/
structure Stage where
  /-- The connections. -/
  hub : Hub Unit Notes := ⟨[], ()⟩
  /-- The rooms under names. -/
  named : List (String × NamedRoom) := []
  /-- The directory. -/
  directory : RoomDirectory String := {}
  /-- The registry. -/
  registry : Registry

/-- What may happen. -/
inductive Step where
  /-- A connection is made, and started or not. -/
  | make (start : Bool)
  | disconnect (i : ConnectionId)
  /-- The peer of a connection ends its side. -/
  | close (i : ConnectionId)
  | roomEnter (room : String) (i : ConnectionId)
  | roomLeave (room : String) (i : ConnectionId)
  | roomContains (room : String) (i : ConnectionId)
  | roomBroadcast (room : String) (data : Bytes) (except : Option ConnectionId)
  | directoryEnter (key : String) (i : ConnectionId)
  | directoryLeave (key : String) (i : ConnectionId)
  | directoryGet (key : String)
  | directoryBroadcast (key : String) (data : Bytes) (except : Option ConnectionId)
  /-- Keep the directory's room under a name. -/
  | directoryHold (key room : String)
  | registryInsert (i : ConnectionId)
  | registryRemove (i : ConnectionId)
  | registryGet (i : ConnectionId)
  | registryBroadcast (data : Bytes) (except : Option ConnectionId)
  deriving DecidableEq, Repr

/-- What a step answers. -/
inductive Answer where
  | nothing
  /-- The connection that was made, and whether its number is above those before. -/
  | made (i : ConnectionId) (grows : Bool)
  | flag (b : Bool)
  | count (n : Nat)
  /-- A count, if there is one. -/
  | count? (n : Option Nat)
  /-- A room, if there is one. -/
  | room? (room : Option Room)
  /-- A connection, if there is one. -/
  | connection? (i : Option ConnectionId)
  | inserted (outcome : Except LimitReached Unit)

/-- Which group a step was about. -/
inductive Subject where
  | none
  | room (room : Room)
  | directory (rooms : Nat)
  | registry (registry : Registry)

/-- What can be seen after a step. -/
structure Outcome where
  answer : Answer
  /-- The group that the step was about, after the step. -/
  subject : Subject
  /-- What the peers received in the step, those that received nothing left out. -/
  got : List (ConnectionId × Bytes)
  /-- Where the connections stand. -/
  phases : List Phase

namespace Stage

/-- The room under a name; one that was not used yet is empty. -/
def room (s : Stage) (name : String) : Room :=
  match s.named.lookup name with
  | some (.own room) => room
  | some (.listed key) => (s.directory.find? key).getD {}
  | none => {}

/-- Let a name stand for a room. -/
def setName (s : Stage) (name : String) (room : NamedRoom) : Stage :=
  { s with named := (name, room) :: s.named.filter (·.1 ≠ name) }

/-- Change the room under a name. -/
def setRoom (s : Stage) (name : String) (room : Room) : Stage :=
  match s.named.lookup name with
  | some (.listed key) => { s with directory := s.directory.put key room }
  | _ => s.setName name (.own room)

/-- Names for a room that the directory does not list any more have it to themselves.  It is empty,
as the directory only forgets empty rooms. -/
def dropUnlisted (s : Stage) : Stage :=
  { s with
    named := s.named.map fun (name, room) =>
      match room with
      | .listed key => (name, if (s.directory.find? key).isSome then room else .own {})
      | .own _ => (name, room) }

/-- Do some actions. -/
def act {α : Type} (s : Stage) (a : Action α) : α × Stage :=
  let (result, hub) := s.hub.act a
  (result, { s with hub })

/-- Do one step, short of what then happens by itself.  Nothing can be rehearsed if the host lets
nobody connect. -/
def perform (host : Host) (s : Stage) : Step → Except SystemError (Answer × Stage)
  | .make start => do
    let (i, hub) := s.hub.create {} {}
    let grows := s.hub.connections.isEmpty || (⟨i.index - 1⟩ : ConnectionId) < i
    if start then
      host.connect (loopback Host.anyPort)
      return (.made i grows, { s with hub := (Except.toOption (hub.start i (loopback Host.anyPort))).getD hub })
    else return (.made i grows, { s with hub })
  | .disconnect i =>
    let (decided, s) := s.act (Action.close i)
    .ok (.flag decided, s)
  | .close i => .ok (.nothing, { s with hub := s.hub.modify i (·.peerEnds .finished) })
  | .roomEnter room i => .ok (.nothing, s.setRoom room ((s.room room).enter i))
  | .roomLeave room i =>
    .ok <|
      match (s.room room).leave? i with
      | some left => (.flag true, s.setRoom room left)
      | none => (.flag false, s)
  | .roomContains room i => .ok (.flag ((s.room room).contains i), s)
  | .roomBroadcast room data except =>
    let (n, s) := s.act ((s.room room).broadcast data except)
    .ok (.count n, s)
  | .directoryEnter key i =>
    let (n, directory) := s.directory.enter key i
    .ok (.count n, { s with directory })
  | .directoryLeave key i =>
    let (n, directory) := s.directory.leave key i
    .ok (.count? n, dropUnlisted { s with directory })
  | .directoryGet key => .ok (.room? (s.directory.find? key), s)
  | .directoryBroadcast key data except =>
    let (n, s) := s.act (s.directory.broadcast key data except)
    .ok (.count n, s)
  | .directoryHold key room =>
    .ok <|
      match s.directory.find? key with
      | some _ => (.flag true, s.setName room (.listed key))
      | none => (.flag false, s)
  | .registryInsert i =>
    .ok <|
      match s.registry.insert i with
      | .ok registry => (.inserted (.ok ()), { s with registry })
      | .error e => (.inserted (.error e), s)
  | .registryRemove i =>
    .ok (.connection? (s.registry.find? i), { s with registry := s.registry.remove i })
  | .registryGet i => .ok (.connection? (s.registry.find? i), s)
  | .registryBroadcast data except =>
    let (n, s) := s.act (s.registry.broadcast data except)
    .ok (.count n, s)

/-- The group that a step is about. -/
def subject (s : Stage) : Step → Subject
  | .make _ | .disconnect _ | .close _ => .none
  | .roomEnter room _ | .roomLeave room _ | .roomContains room _ | .roomBroadcast room .. =>
    .room (s.room room)
  | .directoryEnter .. | .directoryLeave .. | .directoryGet _ | .directoryBroadcast ..
  | .directoryHold .. => .directory s.directory.count
  | .registryInsert _ | .registryRemove _ | .registryGet _ | .registryBroadcast .. =>
    .registry s.registry

/-- How much the peer of a connection received. -/
def received (hub : Hub Unit Notes) (i : ConnectionId) : Bytes :=
  (hub.connection? i).elim [] (·.socket.delivered)

/-- Do one step, and let the connections get quiet. -/
def step (host : Host) (s : Stage) (step : Step) : Except SystemError (Outcome × Stage) := do
  let (answer, after) ← s.perform host step
  let after := { after with hub := after.hub.settle Script.minimalBytes patience }
  let got (i : ConnectionId) : Option (ConnectionId × Bytes) :=
    let fresh := (received after.hub i).drop (received s.hub i).length
    if fresh.isEmpty then none else some (i, fresh)
  return ({
    answer
    subject := after.subject step
    got := (ConnectionId.firstIds after.hub.connections.length).filterMap got
    phases := after.hub.connections.map (·.phase) }, after)

end Stage

/-- Do all steps. -/
def run (host : Host) (s : Stage) (steps : List Step) : Except SystemError (List Outcome) :=
  (rehearse (Stage.step host) s steps).map (·.1)

end ChatLobby.Rehearsal.Groups
