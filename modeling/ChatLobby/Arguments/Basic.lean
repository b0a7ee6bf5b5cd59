import ChatLobby.Settings.Basic

/-!
# Command-line arguments

What the command line can say: settings that override those of the file, and where the
configuration directory is.
-/

namespace ChatLobby

/-- What the command line says; whatever it leaves out is `none`. -/
structure Arguments where
  /-- The address to listen on. -/
  bindAddress : Option String := none
  /-- The port to listen on. -/
  port : Option UInt16 := none
  /-- How many sessions are admitted at once. -/
  maxConnections : Option UInt64 := none
  /-- The largest acceptable frame. -/
  maxFrame : Option UInt64 := none
  /-- The log filter. -/
  logLevel : Option String := none
  /-- The configuration directory. -/
  directory : Option String := none
  deriving DecidableEq, Repr

/-- Why a program does not start with the arguments it was given. -/
inductive ArgumentError where
  /-- An argument that means nothing. -/
  | unknownArgument
  /-- An option lacks its value. -/
  | missingValue
  /-- An option has a value that it cannot have. -/
  | badValue
  /-- An option occurs twice. -/
  | repeatedOption
  /-- A value where there can be none. -/
  | surplusValue
  /-- The user asked for help. -/
  | helpRequested
  deriving DecidableEq, Repr

/-- The name of the kind of error. -/
def ArgumentError.kind : ArgumentError → String
  | unknownArgument => "UnknownArgument"
  | missingValue => "InvalidValue"
  | badValue => "ValueValidation"
  | repeatedOption => "ArgumentConflict"
  | surplusValue => "TooManyValues"
  | helpRequested => "DisplayHelp"

/-- What the program exits with: asking for help is no error. -/
def ArgumentError.exitCode : ArgumentError → Nat
  | helpRequested => 0
  | _ => 2

/-- Settings with what the command line says in place of their own. -/
def Settings.override (s : Settings) (a : Arguments) : Settings :=
  { s with
    server := {
      bindAddress := a.bindAddress.getD s.server.bindAddress
      port := a.port.getD s.server.port
      maxConnections := a.maxConnections.getD s.server.maxConnections }
    transport := { s.transport with maxFrame := a.maxFrame.getD s.transport.maxFrame }
    debug := { logLevel := a.logLevel.getD s.debug.logLevel } }

end ChatLobby
