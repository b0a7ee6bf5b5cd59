import ChatLobby.SendBuffer.Frame

/-!
# The send buffer of a thread

Every thread writes its packets into a buffer of its own, which is made when it is first used.
The chunk size belongs to the process and may change between uses; the chunk that a thread has
begun stays as it is.  While a thread uses its buffer, a use inside that one gets a fresh buffer
for itself.
-/

namespace ChatLobby

/-- The buffer of a thread, once it is used, and the chunk size in force. -/
structure ThreadBuffer where
  /-- The chunk size that was asked for last. -/
  chunkSize : Nat := SendBuffer.defaultChunkSize
  /-- The buffer, if it was used before. -/
  buffer : Option SendBuffer := none

namespace ThreadBuffer

/-- Ask for another chunk size. -/
def setChunkSize (t : ThreadBuffer) (size : Nat) : ThreadBuffer := { t with chunkSize := size }

/-- A fresh buffer with the chunk size in force, as a use inside another one gets it. -/
def fresh (t : ThreadBuffer) : SendBuffer := .ofChunkSize t.chunkSize

/-- The buffer that the thread gets for its next use. -/
def current (t : ThreadBuffer) : SendBuffer := (t.buffer.getD t.fresh).resize t.chunkSize

/-- Use the buffer. -/
def use {α : Type} (t : ThreadBuffer) (act : SendBuffer → SendBuffer × α) : ThreadBuffer × α :=
  let (buffer, result) := act t.current
  ({ t with buffer := some buffer }, result)

end ThreadBuffer

end ChatLobby
