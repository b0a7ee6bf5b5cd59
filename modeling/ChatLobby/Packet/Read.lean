import ChatLobby.Packet.Basic

/-!
# Reading packets

`ClientPacket.ofFrame` reads and validates what a client sent; `ServerPacket.ofTagged` reads what
a server sent, from its tag and payload.  Bytes after the last field are ignored.
-/

namespace ChatLobby

namespace Packet

/-- Refuse a text field that is empty or has more than `max` bytes. -/
def checkLength (field value : String) (max : Nat) : Except PacketError Unit :=
  if value.utf8ByteSize = 0 ∨ max < value.utf8ByteSize then
    .error (.fieldLength field value.utf8ByteSize max)
  else .ok ()

end Packet

namespace ClientPacket

/-- Read the fields of a packet with the given tag.  Every field is read before any length is
judged, and lengths are judged in the order of the fields. -/
def ofTagged (tag : UInt16) (payload : Bytes) : Except PacketError ClientPacket :=
  match tag.toNat with
  | 1 => do
    let (room, rest) ← (Payload.takeText payload).mapError .payload
    let (name, _) ← (Payload.takeText rest).mapError .payload
    Packet.checkLength "room" room Packet.maxNameLength
    Packet.checkLength "name" name Packet.maxNameLength
    return enter room name
  | 2 => return leave
  | 3 => do
    let (text, _) ← (Payload.takeText payload).mapError .payload
    Packet.checkLength "text" text Packet.maxTextLength
    return chat text
  | _ => throw (.unknownTag tag)

/-- Read the packet that a frame carries. -/
def ofFrame (f : Frame) : Except PacketError ClientPacket :=
  match f.tag? with
  | none => .error (.frame (.missingTag f.length))
  | some tag => ofTagged tag f.payload

end ClientPacket

namespace ServerPacket

/-- Read the fields of a packet with the given tag. -/
def ofTagged (tag : UInt16) (payload : Bytes) : Except PacketError ServerPacket :=
  match tag.toNat with
  | 4 => do
    let (speaker, rest) ← (Payload.takeText payload).mapError .payload
    let (text, _) ← (Payload.takeText rest).mapError .payload
    return chatRelay speaker text
  | 5 => do
    let (room, rest) ← (Payload.takeText payload).mapError .payload
    let (members, _) ← (Payload.takeCount rest).mapError .payload
    return presence room members
  | _ => throw (.unknownTag tag)

end ServerPacket

end ChatLobby
