import ChatLobby.Hub.Advance
import ChatLobby.Packet.Read
import ChatLobby.Registry
import ChatLobby.Room

/-!
# The lobby

Every admitted connection has a session, which is in one room at most: entering a room leaves the
one before.  Whenever the members of a room change, all of them are told how many they are, and
what a member says goes to all others of its room.
-/

namespace ChatLobby

/-- Who is connected, and who is in which room. -/
structure Lobby where
  /-- The rooms with their members. -/
  rooms : RoomDirectory String := {}
  /-- The admitted connections. -/
  registry : Registry
  /-- How packets are framed. -/
  policy : FramePolicy := {}
  deriving DecidableEq, Repr

/-- What the lobby keeps for a connection. -/
structure Session where
  /-- The display name given with the latest room. -/
  name : Option String := none
  /-- The room the session is in. -/
  room : Option String := none
  deriving DecidableEq, Repr

namespace Lobby

/-- A lobby that admits so many sessions. -/
def ofCapacity (capacity : Nat) (policy : FramePolicy) : Lobby := { registry := { capacity }, policy }

/-- How many connections are admitted. -/
def connectionCount (l : Lobby) : Nat := l.registry.count

/-- How many members a room has. -/
def roomMembers (l : Lobby) (room : String) : Nat := (l.rooms.find? room).elim 0 Room.count

/-- A number of members as packets carry it. -/
def memberCount (members : Nat) : UInt32 := UInt32.ofNat (min members (UInt32.size - 1))

/-- Tell all members of a room how many they are.  Nobody is told if that makes no frame. -/
def announce (l : Lobby) (room : String) (members : Nat) : Action Unit :=
  match (ServerPacket.presence room (memberCount members)).encode l.policy with
  | .ok data => do discard (l.rooms.broadcast room data none)
  | .error _ => pure ()

/-- What handling a packet does: it uses and changes the lobby and the session of the packet. -/
abbrev Handling := Callback Lobby Session

/-- Enter a room, and announce it. -/
def enter (room : String) (i : ConnectionId) : Handling Unit := do
  let l ← Callback.shared
  let (members, rooms) := l.rooms.enter room i
  let l := { l with rooms }
  Callback.setShared l
  Callback.perform (l.announce room members)

/-- Leave a room, and announce it to those who stay. -/
def leave (room : String) (i : ConnectionId) : Handling Unit := do
  let l ← Callback.shared
  match l.rooms.leave room i with
  | (none, _) => pure ()
  | (some members, rooms) =>
    let l := { l with rooms }
    Callback.setShared l
    Callback.perform (l.announce room members)

/-- Leave a room that there may be. -/
def leave? (room : Option String) (i : ConnectionId) : Handling Unit :=
  match room with
  | some room => leave room i
  | none => pure ()

/-- Do what a packet asks for.  What is said outside of any room is lost; what is said in a room
but makes no frame is an error. -/
def handle (i : ConnectionId) : ClientPacket → Handling (Except PacketError Unit)
  | .enter room name => do
    let s ← Callback.session
    Callback.setSession { name := some name, room := some room }
    leave? s.room i
    enter room i
    return .ok ()
  | .leave => do
    let s ← Callback.session
    Callback.setSession { s with room := none }
    leave? s.room i
    return .ok ()
  | .chat text => do
    let s ← Callback.session
    let l ← Callback.shared
    match s.room, s.name with
    | some room, some speaker =>
      match (ServerPacket.chatRelay speaker text).encode l.policy with
      | .error e => return .error e
      | .ok data =>
        Callback.perform (discard (l.rooms.broadcast room data (some i)))
        return .ok ()
    | _, _ => return .ok ()

/-- Admit a connection, or end it if the lobby is full. -/
def welcome (i : ConnectionId) : Handling Unit := do
  let l ← Callback.shared
  match l.registry.insert i with
  | .ok registry => Callback.setShared { l with registry }
  | .error _ => Callback.perform (discard (Action.close i))

/-- How a packet at fault ends its connection. -/
def refusal (e : PacketError) : ConnectionError := .handler e.message

/-- Read a packet and do what it asks for. -/
def receive (i : ConnectionId) (f : Frame) : ExceptT ConnectionError Handling Unit :=
  .mk <|
    match ClientPacket.ofFrame f with
    | .error e => return .error (refusal e)
    | .ok packet => return (← handle i packet).mapError refusal

/-- Leave the room and the registry. -/
def dismiss (i : ConnectionId) : Handling Unit := do
  let s ← Callback.session
  Callback.setSession { s with room := none }
  leave? s.room i
  let l ← Callback.shared
  Callback.setShared { l with registry := l.registry.remove i }

/-- The handler of every connection in the lobby. -/
def packetHandler : PacketHandler Lobby Session where
  onConnected := welcome
  onPacket := receive
  onDisconnected i _ := dismiss i

/-- The handler of every connection in a lobby with the given framing. -/
def handler (policy : FramePolicy) : Handler Lobby Session := packetHandler.framed policy

/-- Close every admitted connection.  Answers how many that ended. -/
def disconnectAll (l : Lobby) : Action Nat := l.registry.disconnectAll

end Lobby

end ChatLobby
