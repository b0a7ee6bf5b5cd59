import ChatLobby.Endpoint.Address
import ChatLobby.IoError

/-!
# The network of a host

Whether a socket can listen or connect is up to the host.  A `Host` answers for it.
-/

namespace ChatLobby

/-- What a host says to sockets. -/
structure Host where
  /-- Listen on an address.  Answers the address with the port that it has in the end. -/
  listen : SocketAddress → Except SystemError SocketAddress
  /-- Reach an address. -/
  connect : SocketAddress → Except SystemError Unit

namespace Host

/-- The port that a listening socket gets if it asks for none. -/
def anyPort : UInt16 := 49152

/-- The address with a port in place of none. -/
def withPort (address : SocketAddress) : SocketAddress :=
  if address.port = 0 then { address with port := anyPort } else address

/-- Whether an address of eight groups stands for several hosts. -/
def isMulticast (ip : IPv6) : Bool := ip.groups.head?.any fun g => g.toNat / 256 = 0xFF

/-- Whether an address of eight groups is valid on one link only. -/
def isLinkLocal (ip : IPv6) : Bool := ip.groups.head?.any fun g => g.toNat / 64 = 0xFE80 / 64

/-- Whether an address of eight groups stands for every address of the host. -/
def isUnspecified (ip : IPv6) : Bool := ip.groups.all (· = 0)

/-- Whether a program without privileges may listen on the port. -/
def isOpenPort (port : UInt16) : Bool := port.toNat = 0 ∨ 1024 ≤ port.toNat

/-- A host without a network: programs may listen on any address of four octets, on an embedded
one and on every address at once, and nothing can be reached. -/
def offline : Host where
  listen address :=
    let checkPort : Except SystemError SocketAddress :=
      if isOpenPort address.port then .ok (withPort address) else .error .permissionDenied
    match address.ip with
    | .v4 _ => checkPort
    | .v6 ip scope =>
      if isMulticast ip then .error .invalidArgument
      else
        checkPort.bind fun bound =>
          if isUnspecified ip || ip.mapped?.isSome then .ok bound
          else if isLinkLocal ip then
            .error (if scope = 0 then .invalidArgument else .noSuchDevice)
          else .error .addressNotAvailable
  connect _ := .error .networkUnreachable

end Host

end ChatLobby
