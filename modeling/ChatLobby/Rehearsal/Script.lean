import ChatLobby.Hub.Advance

/-!
# Rehearsals, and scripted handlers

Handlers that follow a script and write down what happens to them, to rehearse how a connection
meets a handler that sends, ends, fails or breaks down at a given moment.  A rehearsal is a list of
steps, of which each has an outcome (`rehearse`).
-/

namespace ChatLobby.Rehearsal

/-- The callbacks of a handler. -/
inductive Moment where
  | connected
  | received
  | sent
  | disconnected
  deriving DecidableEq, Repr

/-- What a scripted handler writes down. -/
inductive Event where
  /-- The socket was attached. -/
  | connected
  /-- Bytes came. -/
  | received (data : Bytes)
  /-- A frame came. -/
  | packet (tag : Option UInt16) (payload : Bytes) (length : Nat)
  /-- So many bytes were sent. -/
  | sent (count : Nat)
  /-- The handler asked for the end; whether that decided it. -/
  | asked (decided : Bool)
  /-- The connection has ended; whether a last send was accepted. -/
  | disconnected (reason : DisconnectReason) (lateSend : Bool)
  deriving DecidableEq, Repr

/-- What a handler keeps for its connection. -/
structure Notes where
  /-- What happened, in order. -/
  events : List Event := []
  /-- How often it sent from within the callback that says something was sent. -/
  resent : Nat := 0
  deriving DecidableEq, Repr

/-- What a scripted handler does at moments that every handler has. -/
structure Script where
  /-- What it sends at the beginning. -/
  greeting : Option Bytes := none
  /-- How often it sends one byte more after something was sent. -/
  resends : Nat := 0
  /-- The moments at which it asks for the end. -/
  disconnectsAt : List Moment := []
  /-- The moments at which it breaks down. -/
  panicsAt : List Moment := []
  deriving DecidableEq, Repr

/-- What a handler of bytes does with them. -/
structure ByteScript where
  /-- The error it fails with. -/
  failure : Option String := none
  /-- How many bytes it says it used, if it always says the same. -/
  taken : Option Nat := none
  /-- The size of the pieces that it uses up bytes in. -/
  chunk : Option Nat := none
  /-- Whether it sends back what it used. -/
  echoes : Bool := false
  deriving DecidableEq, Repr

/-- What a handler of frames does with their tags. -/
structure PacketScript where
  /-- Tags of frames that it sends back. -/
  echoes : List Nat := []
  /-- Tags upon which it asks for the end. -/
  disconnects : List Nat := []
  /-- Tags upon which it breaks down. -/
  panics : List Nat := []
  /-- Tags upon which it fails. -/
  fails : List Nat := []
  deriving DecidableEq, Repr

/-- A callback of a scripted handler. -/
abbrev Scripted := Callback Unit Notes

/-- Write down an event. -/
def note (e : Event) : Scripted Unit := do
  let n ← Callback.session
  Callback.setSession { n with events := n.events ++ [e] }

/-- Send, whether or not that is accepted. -/
def sendAnyway (i : ConnectionId) (data : Bytes) : Scripted Unit :=
  Callback.perform (discard (Action.sendTo i data))

/-- Ask for the end, and write down whether that decided it. -/
def askForEnd (i : ConnectionId) : Scripted Unit := do
  note (.asked (← Callback.perform (Action.close i)))

/-- How many bytes a handler says it used. -/
def ByteScript.used (s : ByteScript) (length : Nat) : Nat :=
  match s.taken, s.chunk with
  | some n, _ => n
  | none, some size => length - length % size
  | none, none => length

/-- What the last send of a handler carries. -/
def lastWords : Bytes := Bytes.ofString "late"

namespace Script

/-- What comes at the end of every callback. -/
def after (s : Script) (i : ConnectionId) (m : Moment) : Scripted Unit := do
  if m ∈ s.disconnectsAt then askForEnd i
  if m ∈ s.panicsAt then Callback.panic

/-- The beginning. -/
def onConnected (s : Script) (i : ConnectionId) : Scripted Unit := do
  note .connected
  if let some data := s.greeting then sendAnyway i data
  s.after i .connected

/-- Something was sent. -/
def onSent (s : Script) (i : ConnectionId) (count : Nat) : Scripted Unit := do
  note (.sent count)
  let n ← Callback.session
  if n.resent < s.resends then
    Callback.setSession { n with resent := n.resent + 1 }
    sendAnyway i [0x2B]
  s.after i .sent

/-- The end. -/
def onDisconnected (s : Script) (i : ConnectionId) (reason : DisconnectReason) :
    Scripted Unit := do
  note (.disconnected reason (← Callback.perform (Action.sendTo i lastWords)))
  s.after i .disconnected

/-- What a handler of bytes does with them, up to the end of the callback. -/
def receiveBytes (s : Script) (b : ByteScript) (i : ConnectionId) (data : Bytes) :
    Scripted (Except ConnectionError Nat) := do
  note (.received data)
  s.after i .received
  if let some text := b.failure then return .error (.handler text)
  let used := b.used data.length
  if b.echoes && used ≤ data.length then sendAnyway i (data.take used)
  return .ok used

/-- What a handler of frames does with one. -/
def receivePacket (p : PacketScript) (i : ConnectionId) (f : Frame) :
    Scripted (Except ConnectionError Unit) := do
  note (.packet f.tag? f.payload f.length)
  let listed (tags : List Nat) : Bool := f.tag?.any fun tag => tags.contains tag.toNat
  if listed p.echoes then sendAnyway i f.bytes
  if listed p.disconnects then askForEnd i
  if listed p.panics then Callback.panic
  if listed p.fails then return .error (.handler "bad packet")
  return .ok ()

/-- A handler of bytes that follows a script. -/
def bytes (s : Script) (b : ByteScript) : Handler Unit Notes where
  onConnected := s.onConnected
  onReceived i data := .mk (s.receiveBytes b i data)
  onSent := s.onSent
  onDisconnected := s.onDisconnected

/-- A handler of frames that follows a script. -/
def packets (s : Script) (p : PacketScript) (policy : FramePolicy) : Handler Unit Notes :=
  PacketHandler.framed policy {
    onConnected := s.onConnected
    onPacket := fun i f => .mk (receivePacket p i f)
    onSent := s.onSent
    onDisconnected := s.onDisconnected }

/-- A handler that only writes down the bytes that come. -/
def minimalBytes : Handler Unit Notes where
  onReceived _ data := .mk do
    note (.received data)
    return .ok data.length

/-- A handler that only writes down the frames that come. -/
def minimalPackets (policy : FramePolicy) : Handler Unit Notes :=
  PacketHandler.framed policy {
    onPacket := fun _ f => .mk do
      note (.packet f.tag? f.payload f.length)
      return .ok () }

end Script

/-- How many steps connections are given until they have to be quiet. -/
def patience : Nat := 1000000

/-- Do one step after the other.  Answers the outcomes, and how things stand in the end. -/
def rehearse {stage step outcome : Type}
    (perform : stage → step → Except SystemError (outcome × stage)) :
    stage → List step → Except SystemError (List outcome × stage)
  | s, [] => .ok ([], s)
  | s, step :: steps => do
    let (outcome, s) ← perform s step
    let (outcomes, s) ← rehearse perform s steps
    return (outcome :: outcomes, s)

end ChatLobby.Rehearsal
