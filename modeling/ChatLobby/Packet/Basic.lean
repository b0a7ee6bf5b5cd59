import ChatLobby.Frame.Encode
import ChatLobby.Packet.Payload

/-!
# The packets of the lobby

Clients enter a room under a name, leave it, and talk; the server relays what others say and
announces how many members a room has.  This module holds the packets, their tags and limits, and
how a packet becomes a frame.  Reading is in `Packet.Read`.
-/

namespace ChatLobby

/-- What a client sends. -/
inductive ClientPacket where
  /-- Join a room under a display name, leaving the room before. -/
  | enter (room name : String)
  /-- Leave the current room. -/
  | leave
  /-- Say something in the current room. -/
  | chat (text : String)
  deriving DecidableEq, Repr

/-- What the server sends. -/
inductive ServerPacket where
  /-- Someone in the room said something. -/
  | chatRelay (speaker text : String)
  /-- A room has a new number of members. -/
  | presence (room : String) (members : UInt32)
  deriving DecidableEq, Repr

/-- Why a packet could not be read or written. -/
inductive PacketError where
  /-- No packet in this direction has the tag. -/
  | unknownTag (tag : UInt16)
  /-- The payload cannot be read, or is too long to be written. -/
  | payload (cause : PayloadError)
  /-- A text field is empty or too long. -/
  | fieldLength (field : String) (length max : Nat)
  /-- The frame is at fault. -/
  | frame (cause : FrameError)
  deriving DecidableEq, Repr

/-- The name of the kind of error. -/
def PacketError.kind : PacketError → String
  | unknownTag _ => "UnknownTag"
  | payload _ => "Payload"
  | fieldLength .. => "FieldLength"
  | frame cause => cause.kind

/-- The text of the error. -/
def PacketError.message : PacketError → String
  | unknownTag tag => s!"unknown packet tag {tag}"
  | payload cause => s!"malformed payload: {cause.message}"
  | fieldLength field length max => s!"{field} must be 1..={max} bytes, got {length}"
  | frame cause => cause.message

namespace Packet

/-- The longest payload that is written. -/
def maxPayload : Nat := 4 * 1024

/-- The longest room or display name, in bytes. -/
def maxNameLength : Nat := 32

/-- The longest line, in bytes. -/
def maxTextLength : Nat := 500

/-- The frame for a tag and a payload. -/
def encodeFrame (p : FramePolicy) (tag : UInt16) (payload : Bytes) : Except PacketError Bytes :=
  if maxPayload < payload.length then .error (.payload .bufferFull)
  else (p.encode tag payload).mapError .frame

end Packet

namespace ClientPacket

/-- The tag of the packet. -/
def tag : ClientPacket → UInt16
  | enter .. => 1
  | leave => 2
  | chat .. => 3

/-- The fields of the packet, in order. -/
def payload : ClientPacket → Bytes
  | enter room name => Payload.text room ++ Payload.text name
  | leave => []
  | chat text => Payload.text text

/-- The frame that carries the packet. -/
def encode (p : FramePolicy) (packet : ClientPacket) : Except PacketError Bytes :=
  Packet.encodeFrame p packet.tag packet.payload

end ClientPacket

namespace ServerPacket

/-- The tag of the packet. -/
def tag : ServerPacket → UInt16
  | chatRelay .. => 4
  | presence .. => 5

/-- The fields of the packet, in order. -/
def payload : ServerPacket → Bytes
  | chatRelay speaker text => Payload.text speaker ++ Payload.text text
  | presence room members => Payload.text room ++ Payload.count members

/-- The frame that carries the packet. -/
def encode (p : FramePolicy) (packet : ServerPacket) : Except PacketError Bytes :=
  Packet.encodeFrame p packet.tag packet.payload

end ServerPacket

end ChatLobby
