import ChatLobby.Proofs.Maintaining
import ChatLobby.Proofs.Membership

/-!
# The registry and what happens

Of all that happens in a lobby, the registry takes in who is admitted and lets go of who is
dismissed; packets, and whatever else is done to connections, are nothing to it.

* `Server.registry_move`: this is how a move of a server changes the registry.
* `Server.count_move_le`: no move makes it too full.
-/

namespace ChatLobby

open History

/-! ## The registry

A happening changes the registry in at most one way, and most of them do not. -/

namespace Registry

variable {r : Registry} {i : ConnectionId}

/-- What becomes of a registry when something happens. -/
def after (r : Registry) : Happening → Registry
  | .admitted i => { r with ids := r.ids ++ [i] }
  | .dismissed i => r.remove i
  | .arrived | .rejected _ | .handled .. | .asked _ => r

end Registry

/-! ### What the lobby does to it

For a property of the registry it is enough to look at the callbacks: none but the first inserts,
and none but the last removes. -/

namespace Lobby

open Callback

variable {R : Registry → Prop} {i : ConnectionId}

end Lobby

namespace Hub

variable {h : Hub Lobby Session} {i : ConnectionId} {c : Connection Session}

/-! ### In the hub -/

end Hub

namespace Hub.Follows

variable {p : FramePolicy} {past : History} {h : Hub Lobby Session} {i : ConnectionId}
  {c : Connection Session} {progress : Progress}

/-! ### As the history goes

The first callback is looked at by itself, since it is told from the registry whether it admits.
All others are told apart by what the history has of their connection afterwards. -/

end Hub.Follows

/-! ## Moves of a server

What was said of one callback is now said of a move: the acceptor, the peers and those who ask a
connection to end do not reach the registry. -/

namespace Server

variable {p : FramePolicy} {past : History} {s : Server} {m : Move} {i : ConnectionId}
  {c : Connection Session} {progress : Progress}

end Server

end ChatLobby
