import ChatLobby.Connection.Basic
import ChatLobby.Frame.Basic
import ChatLobby.Settings.Basic

/-!
# What settings mean for sockets, buffers and frames
-/

namespace ChatLobby

/-- How the system probes idle connections; times are in seconds. -/
structure Keepalive where
  /-- Idle time before the first probe. -/
  idle : UInt64 := 60
  /-- Time between probes. -/
  interval : UInt64 := 10
  /-- Unanswered probes before the connection is dropped. -/
  retries : UInt32 := 3
  deriving DecidableEq, Repr

/-- Options of a listening socket and the accepted ones. -/
structure SocketOptions where
  /-- Send small packets without delay. -/
  noDelay : Bool := true
  /-- Probing of idle connections, if wanted. -/
  keepalive : Option Keepalive := none
  /-- Listen on an address that was in use shortly before. -/
  reuseAddress : Bool := true
  /-- How many connections may wait to be accepted. -/
  backlog : Int32 := 128
  deriving DecidableEq, Repr

namespace Settings

/-- The socket options that settings ask for. -/
def socketOptions (s : Settings) : SocketOptions where
  noDelay := s.socket.noDelay
  keepalive :=
    if s.socket.keepalive then
      some {
        idle := s.socket.keepaliveIdleSecs
        interval := s.socket.keepaliveIntervalSecs
        retries := s.socket.keepaliveRetries }
    else none
  backlog := s.socket.backlog

/-- The receive sizing that settings ask for. -/
def receiveSizing (s : Settings) : ReceiveSizing where
  bufferSize := s.transport.recvBufferSize.toNat
  minSpace := s.transport.minRecvSpace.toNat

/-- The default framing with the maximum that settings ask for. -/
def framePolicy (s : Settings) : FramePolicy where
  maxFrame := s.transport.maxFrame.toNat

end Settings

end ChatLobby
