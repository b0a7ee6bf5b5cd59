/-!
# Failures of the operating system

The errors that sockets and files answer with, as causes.  Each system error has a number, a
description and a class; `IoError.message` is what a user reads, `IoError.describe` the
structured form that a program prints when it stops because of one.
-/

namespace ChatLobby

/-- An error of the operating system. -/
inductive SystemError where
  | notFound
  | interrupted
  | badDescriptor
  | wouldBlock
  | permissionDenied
  | alreadyExists
  | noSuchDevice
  | notADirectory
  | isADirectory
  | invalidArgument
  | tooManyOpenFiles
  | fileNameTooLong
  | notSupported
  | addressInUse
  | addressNotAvailable
  | networkUnreachable
  | connectionAborted
  | connectionReset
  | notConnected
  | timedOut
  | connectionRefused
  deriving DecidableEq, Repr

namespace SystemError

/-- The number the system gives the error. -/
def code : SystemError → Nat
  | notFound => 2
  | interrupted => 4
  | badDescriptor => 9
  | wouldBlock => 11
  | permissionDenied => 13
  | alreadyExists => 17
  | noSuchDevice => 19
  | notADirectory => 20
  | isADirectory => 21
  | invalidArgument => 22
  | tooManyOpenFiles => 24
  | fileNameTooLong => 36
  | notSupported => 95
  | addressInUse => 98
  | addressNotAvailable => 99
  | networkUnreachable => 101
  | connectionAborted => 103
  | connectionReset => 104
  | notConnected => 107
  | timedOut => 110
  | connectionRefused => 111

/-- Every error. -/
def all : List SystemError :=
  [notFound, interrupted, badDescriptor, wouldBlock, permissionDenied, alreadyExists, noSuchDevice,
    notADirectory, isADirectory, invalidArgument, tooManyOpenFiles, fileNameTooLong, notSupported,
    addressInUse, addressNotAvailable, networkUnreachable, connectionAborted, connectionReset,
    notConnected, timedOut, connectionRefused]

/-- The error with the given number. -/
def ofCode? (n : Nat) : Option SystemError := all.find? (·.code = n)

/-- The system's description. -/
def description : SystemError → String
  | notFound => "No such file or directory"
  | interrupted => "Interrupted system call"
  | badDescriptor => "Bad file descriptor"
  | wouldBlock => "Resource temporarily unavailable"
  | permissionDenied => "Permission denied"
  | alreadyExists => "File exists"
  | noSuchDevice => "No such device"
  | notADirectory => "Not a directory"
  | isADirectory => "Is a directory"
  | invalidArgument => "Invalid argument"
  | tooManyOpenFiles => "Too many open files"
  | fileNameTooLong => "File name too long"
  | notSupported => "Operation not supported"
  | addressInUse => "Address already in use"
  | addressNotAvailable => "Cannot assign requested address"
  | networkUnreachable => "Network is unreachable"
  | connectionAborted => "Software caused connection abort"
  | connectionReset => "Connection reset by peer"
  | notConnected => "Transport endpoint is not connected"
  | timedOut => "Connection timed out"
  | connectionRefused => "Connection refused"

/-- The class the error falls into. -/
def kind : SystemError → String
  | notFound => "NotFound"
  | interrupted => "Interrupted"
  | wouldBlock => "WouldBlock"
  | permissionDenied => "PermissionDenied"
  | alreadyExists => "AlreadyExists"
  | notADirectory => "NotADirectory"
  | isADirectory => "IsADirectory"
  | fileNameTooLong => "InvalidFilename"
  | invalidArgument => "InvalidInput"
  | addressInUse => "AddrInUse"
  | addressNotAvailable => "AddrNotAvailable"
  | notSupported => "Unsupported"
  | networkUnreachable => "NetworkUnreachable"
  | connectionAborted => "ConnectionAborted"
  | connectionReset => "ConnectionReset"
  | notConnected => "NotConnected"
  | timedOut => "TimedOut"
  | connectionRefused => "ConnectionRefused"
  | badDescriptor | noSuchDevice | tooManyOpenFiles => "Uncategorized"

/-- Errors that say the listening socket itself can no longer be used. -/
def breaksListener : SystemError → Bool
  | badDescriptor | invalidArgument | notConnected | notSupported => true
  | _ => false

/-- Errors that concern one peer only, which went away while it was being accepted. -/
def concernsPeer : SystemError → Bool
  | connectionAborted | connectionReset | connectionRefused | interrupted | wouldBlock
  | timedOut => true
  | _ => false

end SystemError

/-- Why reading or writing a file or a socket failed. -/
inductive IoError where
  /-- The operating system refused. -/
  | system (cause : SystemError)
  /-- A text file held bytes that are not UTF-8. -/
  | invalidUtf8
  /-- A socket took none of the bytes it was offered. -/
  | wroteNothing
  deriving DecidableEq, Repr

namespace IoError

/-- The text a user reads. -/
def message : IoError → String
  | system cause => s!"{cause.description} (os error {cause.code})"
  | invalidUtf8 => "stream did not contain valid UTF-8"
  | wroteNothing => "write zero"

/-- The structured form, with every part named. -/
def describe : IoError → String
  | system cause =>
    "Os \x7b code: " ++ toString cause.code ++ ", kind: " ++ cause.kind ++ ", message: \""
      ++ cause.description ++ "\" \x7d"
  | invalidUtf8 =>
    "Error \x7b kind: InvalidData, message: \"stream did not contain valid UTF-8\" \x7d"
  | wroteNothing => "Kind(WriteZero)"

end IoError

end ChatLobby
