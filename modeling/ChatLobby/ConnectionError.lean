import ChatLobby.Cursor
import ChatLobby.Frame.Basic
import ChatLobby.IoError

/-!
# Why a connection fails

The causes that end a connection or refuse an operation on it.
-/

namespace ChatLobby

/-- A cause that ends a connection or refuses an operation on it. -/
inductive ConnectionError where
  /-- The socket failed. -/
  | io (cause : IoError)
  /-- The peer broke the framing. -/
  | protocol (cause : FrameError)
  /-- The handler claims to have used more bytes than there were. -/
  | consumedOutOfRange (consumed available : Nat)
  /-- The receive cursor was moved out of bounds. -/
  | cursor (cause : CursorError)
  /-- The handler failed with a text of its own. -/
  | handler (text : String)
  /-- A callback of the handler broke down. -/
  | handlerPanicked
  /-- The connection is not pending any more. -/
  | alreadyStarted
  deriving DecidableEq, Repr

/-- The name of the kind of error. -/
def ConnectionError.kind : ConnectionError → String
  | io _ => "Io"
  | protocol cause => cause.kind
  | consumedOutOfRange .. => "ConsumedOutOfRange"
  | cursor cause => cause.kind
  | handler _ => "Handler"
  | handlerPanicked => "HandlerPanicked"
  | alreadyStarted => "AlreadyStarted"

/-- The text of the error. -/
def ConnectionError.message : ConnectionError → String
  | io cause => s!"transport error: {cause.message}"
  | protocol cause => s!"protocol violation: {cause.message}"
  | consumedOutOfRange consumed available =>
    s!"handler consumed {consumed} bytes but only {available} were readable"
  | cursor cause => s!"receive buffer: {cause.message}"
  | handler text => s!"handler error: {text}"
  | handlerPanicked => "handler panicked"
  | alreadyStarted => "connection already started or closed"

end ChatLobby
