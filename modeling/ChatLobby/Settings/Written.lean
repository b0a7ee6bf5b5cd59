import ChatLobby.Settings.Basic

/-!
# The settings file, written

The file is a record of sections, each a record of settings, one setting a line.
-/

namespace ChatLobby.Settings

/-- A truth value as it is written. -/
def flagText (b : Bool) : String := if b then "true" else "false"

/-- The sections with their settings, in the order of the file: name, and value as written. -/
def sections (s : Settings) : List (String × List (String × String)) :=
  [("server", [
      ("bind_address", Text.quoted .file s.server.bindAddress),
      ("port", toString s.server.port.toNat),
      ("max_connections", toString s.server.maxConnections.toNat)]),
    ("transport", [
      ("recv_buffer_size", toString s.transport.recvBufferSize.toNat),
      ("min_recv_space", toString s.transport.minRecvSpace.toNat),
      ("send_chunk_size", toString s.transport.sendChunkSize.toNat),
      ("max_frame", toString s.transport.maxFrame.toNat)]),
    ("socket", [
      ("nodelay", flagText s.socket.noDelay),
      ("keepalive", flagText s.socket.keepalive),
      ("keepalive_idle_secs", toString s.socket.keepaliveIdleSecs.toNat),
      ("keepalive_interval_secs", toString s.socket.keepaliveIntervalSecs.toNat),
      ("keepalive_retries", toString s.socket.keepaliveRetries.toNat),
      ("backlog", toString s.socket.backlog.toInt)]),
    ("debug", [
      ("log_level", Text.quoted .file s.debug.logLevel)])]

/-- One setting on a line of its own. -/
def fieldLine (field : String × String) : String := s!"        {field.1}: {field.2},\n"

/-- One section with its settings. -/
def sectionText (sec : String × List (String × String)) : String :=
  s!"    {sec.1}: (\n" ++ String.join (sec.2.map fieldLine) ++ "    ),\n"

/-- The text of the settings file. -/
def fileText (s : Settings) : String := "(\n" ++ String.join (s.sections.map sectionText) ++ ")"

end ChatLobby.Settings
