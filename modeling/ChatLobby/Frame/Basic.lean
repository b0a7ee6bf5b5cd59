import ChatLobby.SendBuffer.Basic

/-!
# Frames

A frame is a length prefix, a packet tag and a payload:

```
+-------------------+-------------------+---------------------+
| length            | tag (2 bytes)     | payload             |
| little-endian     | little-endian     |                     |
+-------------------+-------------------+---------------------+
```

A `FramePolicy` fixes how wide the prefix is, whether the length counts the prefix itself, and
which sizes are acceptable.  The default has a prefix of two bytes that counts itself.
-/

namespace ChatLobby

/-- How many bytes the packet tag has. -/
def tagLength : Nat := 2

/-- How wide the length prefix of a frame is. -/
inductive PrefixWidth where
  /-- A prefix of two bytes. -/
  | two
  /-- A prefix of four bytes. -/
  | four
  deriving DecidableEq, Repr

namespace PrefixWidth

/-- The number of bytes in the prefix. -/
def bytes : PrefixWidth → Nat
  | two => 2
  | four => 4

/-- Whether the prefix can hold `n`. -/
def Fits (w : PrefixWidth) (n : Nat) : Prop := n < 1 <<< (8 * w.bytes)

instance (w : PrefixWidth) (n : Nat) : Decidable (w.Fits n) :=
  inferInstanceAs (Decidable (n < 1 <<< (8 * w.bytes)))

end PrefixWidth

/-- How frames are laid out, and which sizes are acceptable. -/
structure FramePolicy where
  /-- The width of the length prefix. -/
  width : PrefixWidth := .two
  /-- Whether the declared length counts the prefix itself. -/
  countsPrefix : Bool := true
  /-- The smallest acceptable frame, in bytes altogether. -/
  minFrame : Nat := 4
  /-- The largest acceptable frame, in bytes altogether. -/
  maxFrame : Nat := 65536
  deriving DecidableEq, Repr

namespace FramePolicy

/-- The default policy with a prefix of four bytes. -/
def wide : FramePolicy where
  width := .four
  minFrame := 6

/-- How many bytes come before the payload. -/
def headerLength (p : FramePolicy) : Nat := p.width.bytes + tagLength

/-- The size of a frame whose prefix says `declared`. -/
def sizeOfDeclared (p : FramePolicy) (declared : Nat) : Nat :=
  if p.countsPrefix then declared else declared + p.width.bytes

/-- What the prefix of a frame of `size` bytes says. -/
def declaredOfSize (p : FramePolicy) (size : Nat) : Nat :=
  if p.countsPrefix then size else size - p.width.bytes

end FramePolicy

/-- Why a frame could not be read or written. -/
inductive FrameError where
  /-- The declared size is below the minimum. -/
  | tooShort (size min : Nat)
  /-- The size exceeds the maximum. -/
  | tooLarge (size max : Nat)
  /-- The frame has no room for a packet tag. -/
  | missingTag (size : Nat)
  /-- The length does not fit the prefix. -/
  | unrepresentable (length : Nat)
  /-- A payload writer reported more bytes than it was given room for. -/
  | payloadOverrun (written capacity : Nat)
  /-- The send buffer was misused. -/
  | sendBuffer (cause : SendBufferError)
  deriving DecidableEq, Repr

/-- The name of the kind of error. -/
def FrameError.kind : FrameError → String
  | tooShort .. => "FrameTooShort"
  | tooLarge .. => "FrameTooLarge"
  | missingTag _ => "MissingTag"
  | unrepresentable _ => "Unrepresentable"
  | payloadOverrun .. => "PayloadOverrun"
  | sendBuffer cause => cause.kind

/-- The text of the error. -/
def FrameError.message : FrameError → String
  | tooShort size min => s!"frame size {size} below minimum {min}"
  | tooLarge size max => s!"frame size {size} exceeds maximum {max}"
  | missingTag size => s!"frame of {size} bytes has no packet tag"
  | unrepresentable length => s!"length {length} does not fit the length field"
  | payloadOverrun written capacity =>
    s!"payload writer reported {written} bytes into a {capacity} byte region"
  | sendBuffer cause => cause.message

/-- One complete frame, its length prefix included. -/
structure Frame where
  /-- How wide the prefix is. -/
  width : PrefixWidth
  /-- All bytes of the frame. -/
  bytes : Bytes
  deriving DecidableEq, Repr

namespace Frame

/-- The size of the frame. -/
def length (f : Frame) : Nat := f.bytes.length

/-- Whether the frame has no bytes at all, which no decoded frame is. -/
def isEmpty (f : Frame) : Bool := f.bytes.isEmpty

/-- The packet tag, if the frame is long enough to have one. -/
def tag? (f : Frame) : Option UInt16 :=
  match f.bytes.drop f.width.bytes with
  | low :: high :: _ => some (UInt16.ofNat (Bytes.ofLittleEndian [low, high]))
  | _ => none

/-- The bytes after the tag. -/
def payload (f : Frame) : Bytes := f.bytes.drop (f.width.bytes + tagLength)

end Frame

end ChatLobby
