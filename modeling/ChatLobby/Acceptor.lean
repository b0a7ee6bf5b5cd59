import ChatLobby.Host

/-!
# Accepting connections

An acceptor listens on one address and goes on accepting until it is told to stop or its socket
fails for good.  A failure that concerns one peer is passed over, and after any other it pauses
and tries again.
-/

namespace ChatLobby

/-- Why accepting ends with an error. -/
inductive AcceptError where
  /-- The address cannot be listened on. -/
  | bind (address : SocketAddress) (cause : SystemError)
  /-- The listening socket cannot be used any more. -/
  | fatal (cause : SystemError)
  deriving DecidableEq, Repr

namespace AcceptError

/-- The text of the error. -/
def message : AcceptError → String
  | bind address cause => s!"failed to listen on {address.text}: {(IoError.system cause).message}"
  | fatal cause => s!"listening socket failed: {(IoError.system cause).message}"

/-- The structured form of the error. -/
def describe : AcceptError → String
  | bind address cause =>
    "Bind \x7b addr: " ++ address.text ++ ", source: " ++ (IoError.system cause).describe ++ " \x7d"
  | fatal cause => s!"Fatal({(IoError.system cause).describe})"

end AcceptError

/-- What an acceptor does about a failure to accept. -/
inductive AcceptVerdict where
  /-- Pass over the peer that is concerned. -/
  | passOver
  /-- Pause and try again. -/
  | retry
  /-- Give up. -/
  | giveUp
  deriving DecidableEq, Repr

namespace AcceptVerdict

/-- The verdict on a failure.  That the socket is broken is checked first. -/
def ofError (cause : SystemError) : AcceptVerdict :=
  if cause.breaksListener then giveUp else if cause.concernsPeer then passOver else retry

/-- What is logged about a failure. -/
def report (cause : SystemError) : String :=
  match ofError cause with
  | passOver => s!"Accept failed for one peer: {(IoError.system cause).message}"
  | retry => s!"Accept failed: {(IoError.system cause).message}, retrying in 50ms"
  | giveUp => s!"Listener failed: {(IoError.system cause).message}"

end AcceptVerdict

/-- Where an acceptor stands. -/
inductive AcceptorState where
  /-- It accepts. -/
  | running
  /-- It was told to stop. -/
  | stopped
  /-- Its socket failed for good. -/
  | failed (cause : SystemError)
  deriving DecidableEq, Repr

namespace AcceptorState

/-- Meet a failure to accept. -/
def meet (s : AcceptorState) (cause : SystemError) : AcceptorState :=
  match s with
  | running => if AcceptVerdict.ofError cause = .giveUp then failed cause else running
  | s => s

/-- Tell the acceptor to stop. -/
def stop : AcceptorState → AcceptorState
  | running => stopped
  | s => s

end AcceptorState

/-- Listen on an address. -/
def Host.bind (host : Host) (address : SocketAddress) : Except AcceptError SocketAddress :=
  (host.listen address).mapError (.bind address)

end ChatLobby
