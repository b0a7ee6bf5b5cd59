import ChatLobby.Arguments.Basic

/-!
# Reading the command line

Arguments are read in order.  An option takes its value after an equals sign or as the next
argument; a value is looked at only when the next option begins or the arguments end, so that an
unknown argument behind a bad value is what gets reported.
-/

namespace ChatLobby

/-- The options that take a value. -/
inductive CommandOption where
  | bind
  | port
  | maxConnections
  | maxFrame
  | logLevel
  | config
  deriving DecidableEq, Repr

namespace CommandOption

/-- The option with the given name, written without its dashes. -/
def ofName? : String → Option CommandOption
  | "bind" => some bind
  | "port" => some port
  | "max-connections" => some maxConnections
  | "max-frame" => some maxFrame
  | "log-level" => some logLevel
  | "config" => some config
  | _ => none

end CommandOption

namespace Arguments

/-- Whether the option was given. -/
def has (a : Arguments) : CommandOption → Bool
  | .bind => a.bindAddress.isSome
  | .port => a.port.isSome
  | .maxConnections => a.maxConnections.isSome
  | .maxFrame => a.maxFrame.isSome
  | .logLevel => a.logLevel.isSome
  | .config => a.directory.isSome

/-- A number with a sign or without one, as a magnitude and whether it is negative. -/
def signed? : List Char → Option (Bool × Nat)
  | '-' :: digits => (Text.numeral? 10 digits).map ((true, ·))
  | '+' :: digits => (Text.numeral? 10 digits).map ((false, ·))
  | digits => (Text.numeral? 10 digits).map ((false, ·))

/-- A port number.  A negative zero is a zero. -/
def portOf? (value : String) : Option UInt16 :=
  match signed? value.toList with
  | some (negative, n) =>
    if n < 65536 ∧ (negative → n = 0) then some (UInt16.ofNat n) else none
  | none => none

/-- A number of 64 bits, which takes no minus sign. -/
def sizeOf? (value : String) : Option UInt64 :=
  match signed? value.toList with
  | some (false, n) => if n < UInt64.size then some (UInt64.ofNat n) else none
  | _ => none

/-- Answer `badValue` if there is no value. -/
def orBad {α : Type} : Option α → Except ArgumentError α
  | some a => .ok a
  | none => .error .badValue

/-- Give the option its value.  That it must not be repeated comes before what its value is. -/
def set (a : Arguments) (option : CommandOption) (value : String) :
    Except ArgumentError Arguments :=
  if a.has option then .error .repeatedOption
  else
    match option with
    | .bind => .ok { a with bindAddress := some value }
    | .port => (orBad (portOf? value)).map fun n => { a with port := some n }
    | .maxConnections => (orBad (sizeOf? value)).map fun n => { a with maxConnections := some n }
    | .maxFrame => (orBad (sizeOf? value)).map fun n => { a with maxFrame := some n }
    | .logLevel => .ok { a with logLevel := some value }
    | .config =>
      if value.isEmpty then .error .missingValue else .ok { a with directory := some value }

/-- An option whose value was not looked at yet. -/
structure Pending where
  /-- The option. -/
  option : CommandOption
  /-- Its value, if the value came already. -/
  value : Option String := none
  deriving DecidableEq, Repr

/-- The arguments once the pending option is done with. -/
def settle (a : Arguments) : Option Pending → Except ArgumentError Arguments
  | none => .ok a
  | some { option, value := some value } => a.set option value
  | some { value := none, .. } => .error .missingValue

/-- What one argument looks like. -/
inductive Word where
  /-- Two dashes: what follows are no options. -/
  | separator
  /-- A name after two dashes, and what follows its equals sign. -/
  | long (name : String) (value : Option String)
  /-- One dash, and the character after it. -/
  | short (flag : Char)
  /-- Anything else. -/
  | plain (text : String)
  deriving DecidableEq, Repr

/-- Tell what an argument looks like. -/
def Word.ofText (s : String) : Word :=
  match s.toList with
  | ['-', '-'] => .separator
  | '-' :: '-' :: cs =>
    match Text.splitFirst? '=' cs with
    | some (name, value) => .long (String.ofList name) (some (String.ofList value))
    | none => .long (String.ofList cs) none
  | '-' :: c :: _ => .short c
  | _ => .plain s

/-- Read arguments behind those in `a` and the option that waits in `pending`. -/
def readWords (a : Arguments) (pending : Option Pending) :
    List Word → Except ArgumentError Arguments
  | [] => a.settle pending
  | .separator :: rest => if rest.isEmpty then a.settle pending else .error .unknownArgument
  | .plain text :: rest =>
    match pending with
    | some { option, value := none } => readWords a (some { option, value := some text }) rest
    | _ => .error .unknownArgument
  | .short flag :: _ =>
    if flag = 'h' then (a.settle pending).bind fun _ => .error .helpRequested
    else .error .unknownArgument
  | .long name value :: rest =>
    match CommandOption.ofName? name, value with
    | some option, some value => do readWords (← (← a.settle pending).set option value) none rest
    | some option, none => do readWords (← a.settle pending) (some { option }) rest
    | none, value =>
      if name = "help" then
        if value.isSome then .error .surplusValue
        else (a.settle pending).bind fun _ => .error .helpRequested
      else .error .unknownArgument

/-- Read the arguments of a command line, without the name of the program. -/
def parse (args : List String) : Except ArgumentError Arguments :=
  readWords {} none (args.map Word.ofText)

end Arguments

end ChatLobby
