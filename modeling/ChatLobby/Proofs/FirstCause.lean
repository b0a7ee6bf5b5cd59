import ChatLobby.Proofs.Sights

/-!
# The first cause of an end wins

A connection may be asked to end from anywhere, also in the middle of a callback that fails in the
end, and while there is more to receive.  The reason that its handler is told is that of whatever
came first: someone here who asked for the end, the end of the stream, or the first failure.

The invariant `Sight.Rests` is followed through a move: actions run one after the other
(`Action.run_watched_keeps`), a callback is what is told, its actions and what came of them
(`Hub.shows_call`), and each thing that a connection does by itself is a callback or none, and then
perhaps the end (`Hub.shows_advance`).
-/

namespace ChatLobby

variable {σ τ α : Type}

/-! ## What others do to the connection

Everything that may touch the watched connection is an action, run by a callback of whichever
connection or by someone else.  So the laws of `Carried` are used here once, for all actions. -/

open Connection Sight

namespace Sight.Carried

variable {P : List Sight → Phase → Prop} {seen : List Sight} {c : Connection τ}

/-- A send is seen with its answer, and whether it is accepted depends on the phase alone. -/
theorem send (hP : Carried P) (data : Bytes) (h : P seen c.phase) :
    P (seen ++ [.sent data (c.send data).1]) (c.send data).2.phase := by
  by_cases hc : c.phase = .connected
  · rw [send_of_connected hc]
    rw [hc] at h
    show P _ c.phase
    rw [hc]
    exact hP.accepted seen data h
  · rw [send_of_ne hc]
    exact hP.ignored seen c.phase data h

/-- So is asking for the end, and that may change the phase. -/
theorem disconnect (hP : Carried P) (h : P seen c.phase) :
    P (seen ++ [.asked c.disconnect.1]) c.disconnect.2.phase := by
  cases hc : c.phase with
  | pending =>
    rw [disconnect_of_pending hc]
    exact hP.cancelled seen (hc ▸ h)
  | connected =>
    rw [disconnect_of_connected hc]
    exact hP.decided seen (hc ▸ h)
  | disconnecting =>
    rw [disconnect_of_ending (.inl hc)]
    exact hP.late seen c.phase h
  | disconnected =>
    rw [disconnect_of_ending (.inr hc)]
    exact hP.late seen c.phase h

end Sight.Carried

namespace Hub

variable {P : List Sight → Phase → Prop} {handler : Handler σ τ} {h : Hub (Watched σ) τ}
  {i j : ConnectionId} {c : Connection τ}

/-! ### In a hub

What was seen and the phase of the connection lie apart in a hub: the one is shared, the other in
the list of connections.  `Hub.Shows` puts them together. -/

/-- A handler that asks for the end when bytes come and then breaks down, and that still wants to
send when it is told of the end. -/
def hasty : Handler Unit Unit where
  onReceived i _ := ExceptT.lift do
    discard (Callback.perform (.close i))
    Callback.panic
  onDisconnected i _ := discard (Callback.perform (.sendTo i [7]))

-- The second byte is there, and nobody is told of it.
example :
    (watch hasty ⟨0⟩
      [.create ⟨8, 1⟩ (), .start ⟨0⟩ ⟨.v4 ⟨127, 0, 0, 1⟩, 4000⟩, .progress ⟨0⟩ .greet {},
        .peerSends ⟨0⟩ [1, 2], .progress ⟨0⟩ .receive { read := fun _ => 1 },
        .progress ⟨0⟩ .receive {}] ()).shared.seen =
      [.started, .told .connected, .told (.received [1]), .asked true,
        .panicked (.received [1]), .told (.disconnected .requested), .sent [7] false] := by
  decide +kernel

end Hub

end ChatLobby
