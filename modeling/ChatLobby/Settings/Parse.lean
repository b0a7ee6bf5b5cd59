import ChatLobby.Settings.Basic
import ChatLobby.Settings.Document

/-!
# Settings from a file

A settings file is a record of sections.  A section or setting that is missing has its default,
one that is not known is ignored, and one that occurs twice makes the file unusable.
-/

namespace ChatLobby.Settings

/-- The one field with the given name: `none` if there are several, and `some none` if there is
none. -/
def field? (fields : List (String × Value)) (name : String) : Option (Option Value) :=
  match fields.filter (·.1 == name) with
  | [] => some none
  | [field] => some (some field.2)
  | _ => none

/-- Read the field with the given name, or take its default if it is missing. -/
def fieldOr? {α : Type} (fields : List (String × Value)) (name : String) (read : Value → Option α)
    (default : α) : Option α :=
  match field? fields name with
  | none => none
  | some none => some default
  | some (some v) => read v

/-- The fields of a record, if it may have the given name. -/
def recordFields? (ext : Extensions) (name : String) : Value → Option (List (String × Value))
  | .record none fields => if ext.explicitNames then none else some fields
  | .record (some found) fields => if found = name then some fields else none
  | _ => none

/-- A truth value. -/
def readFlag : Value → Option Bool
  | .flag b => some b
  | _ => none

/-- A text. -/
def readText : Value → Option String
  | .text s => some s
  | _ => none

/-- An integer of the given type. -/
def readInteger (type : IntegerType) : Value → Option Int
  | .integer literal =>
    if (literal.suffix?.all (· = type)) && type.holds literal.negative literal.magnitude then
      some (if literal.negative then -literal.magnitude else literal.magnitude)
    else none
  | _ => none

/-- An unsigned integer of the given number of bits. -/
def readUnsigned (bits : Nat) (v : Value) : Option Nat :=
  (readInteger ⟨false, bits⟩ v).map Int.toNat

/-- Read the section on listening and admission. -/
def readServer (ext : Extensions) (v : Value) : Option ServerSettings := do
  let fields ← recordFields? ext "ServerConfig" v
  let base : ServerSettings := {}
  return {
    bindAddress := ← fieldOr? fields "bind_address" readText base.bindAddress
    port := ← fieldOr? fields "port" (fun v => (readUnsigned 16 v).map UInt16.ofNat) base.port
    maxConnections := ←
      fieldOr? fields "max_connections" (fun v => (readUnsigned 64 v).map UInt64.ofNat)
        base.maxConnections }

/-- Read the section on buffers and frames. -/
def readTransport (ext : Extensions) (v : Value) : Option TransportSettings := do
  let fields ← recordFields? ext "TransportConfig" v
  let base : TransportSettings := {}
  let size (name : String) (default : UInt64) : Option UInt64 :=
    fieldOr? fields name (fun v => (readUnsigned 64 v).map UInt64.ofNat) default
  return {
    recvBufferSize := ← size "recv_buffer_size" base.recvBufferSize
    minRecvSpace := ← size "min_recv_space" base.minRecvSpace
    sendChunkSize := ← size "send_chunk_size" base.sendChunkSize
    maxFrame := ← size "max_frame" base.maxFrame }

/-- Read the section on socket options. -/
def readSocket (ext : Extensions) (v : Value) : Option SocketSettings := do
  let fields ← recordFields? ext "SocketOptions" v
  let base : SocketSettings := {}
  let seconds (name : String) (default : UInt64) : Option UInt64 :=
    fieldOr? fields name (fun v => (readUnsigned 64 v).map UInt64.ofNat) default
  return {
    noDelay := ← fieldOr? fields "nodelay" readFlag base.noDelay
    keepalive := ← fieldOr? fields "keepalive" readFlag base.keepalive
    keepaliveIdleSecs := ← seconds "keepalive_idle_secs" base.keepaliveIdleSecs
    keepaliveIntervalSecs := ← seconds "keepalive_interval_secs" base.keepaliveIntervalSecs
    keepaliveRetries := ←
      fieldOr? fields "keepalive_retries" (fun v => (readUnsigned 32 v).map UInt32.ofNat)
        base.keepaliveRetries
    backlog := ←
      fieldOr? fields "backlog" (fun v => (readInteger ⟨true, 32⟩ v).map Int32.ofInt)
        base.backlog }

/-- Read the section on logging. -/
def readDebug (ext : Extensions) (v : Value) : Option DebugSettings := do
  let fields ← recordFields? ext "DebugConfig" v
  let base : DebugSettings := {}
  return { logLevel := ← fieldOr? fields "log_level" readText base.logLevel }

/-- Read settings from a value. -/
def ofValue? (ext : Extensions) (v : Value) : Option Settings := do
  let fields ← recordFields? ext "Config" v
  return {
    server := ← fieldOr? fields "server" (readServer ext) {}
    transport := ← fieldOr? fields "transport" (readTransport ext) {}
    socket := ← fieldOr? fields "socket" (readSocket ext) {}
    debug := ← fieldOr? fields "debug" (readDebug ext) {} }

/-- Read the text of a settings file. -/
def ofText? (s : String) : Option Settings := do
  let (ext, v) ← document? s
  ofValue? ext v

end ChatLobby.Settings
