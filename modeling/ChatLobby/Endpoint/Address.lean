import ChatLobby.Text.Digits

/-!
# Socket addresses

Addresses of both families with a port, and their canonical text.  An address of the second
family is eight groups of 16 bits; its text leaves out the longest run of zero groups (the first
of several equally long ones) if there are at least two of them, and shows an embedded address of
the first family in dotted form.
-/

namespace ChatLobby

/-- An address of four octets. -/
structure IPv4 where
  a : UInt8
  b : UInt8
  c : UInt8
  d : UInt8
  deriving DecidableEq, Repr

/-- An address of eight groups. -/
structure IPv6 where
  /-- The groups, most significant first. -/
  groups : List UInt16
  length_eq : groups.length = 8 := by decide
  deriving DecidableEq, Repr

/-- An address of either family. -/
inductive IPAddress where
  /-- An address of four octets. -/
  | v4 (ip : IPv4)
  /-- An address of eight groups in the scope with the given number; 0 stands for none. -/
  | v6 (ip : IPv6) (scope : UInt32)
  deriving DecidableEq, Repr

/-- An address with a port. -/
structure SocketAddress where
  ip : IPAddress
  port : UInt16
  deriving DecidableEq, Repr

namespace IPv4

/-- The octets as two groups of 16 bits. -/
def toGroups (ip : IPv4) : List UInt16 :=
  [UInt16.ofNat (256 * ip.a.toNat + ip.b.toNat), UInt16.ofNat (256 * ip.c.toNat + ip.d.toNat)]

/-- The octets in two groups of 16 bits. -/
def ofGroups (high low : UInt16) : IPv4 where
  a := UInt8.ofNat (high.toNat / 256)
  b := UInt8.ofNat high.toNat
  c := UInt8.ofNat (low.toNat / 256)
  d := UInt8.ofNat low.toNat

/-- The address in dotted form. -/
def text (ip : IPv4) : String := s!"{ip.a}.{ip.b}.{ip.c}.{ip.d}"

end IPv4

namespace IPv6

/-- The embedded address of four octets, if this is one. -/
def mapped? (ip : IPv6) : Option IPv4 :=
  match ip.groups with
  | [0, 0, 0, 0, 0, 0xFFFF, high, low] => some (.ofGroups high low)
  | _ => none

/-- How many groups from the `start`-th on are zero without a break. -/
def zeroRun (ip : IPv6) (start : Nat) : Nat :=
  ((ip.groups.drop start).takeWhile (· == 0)).length

/-- Where the first of the longest runs of zero groups begins, and how long it is. -/
def longestZeroRun (ip : IPv6) : Nat × Nat :=
  let longer (best : Nat × Nat) (start : Nat) : Nat × Nat :=
    if best.2 < ip.zeroRun start then (start, ip.zeroRun start) else best
  (List.range 8).foldl longer (0, 0)

/-- Groups with colons between them. -/
def groupsText (groups : List UInt16) : String :=
  ":".intercalate (groups.map fun g => String.ofList (Nat.toDigits 16 g.toNat))

/-- The canonical text of the address. -/
def text (ip : IPv6) : String :=
  match ip.mapped? with
  | some v4 => s!"::ffff:{v4.text}"
  | none =>
    let (start, length) := ip.longestZeroRun
    if 1 < length then
      groupsText (ip.groups.take start) ++ "::" ++ groupsText (ip.groups.drop (start + length))
    else groupsText ip.groups

end IPv6

namespace IPAddress

/-- Whether the address has eight groups. -/
def isV6 : IPAddress → Bool
  | v4 _ => false
  | v6 .. => true

end IPAddress

namespace SocketAddress

/-- The canonical text of the address and port; eight groups stand in brackets. -/
def text (address : SocketAddress) : String :=
  match address.ip with
  | .v4 ip => s!"{ip.text}:{address.port}"
  | .v6 ip scope =>
    if scope = 0 then s!"[{ip.text}]:{address.port}" else s!"[{ip.text}%{scope}]:{address.port}"

end SocketAddress

end ChatLobby
