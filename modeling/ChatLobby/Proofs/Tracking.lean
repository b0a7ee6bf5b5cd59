import ChatLobby.Proofs.Calling
import ChatLobby.Proofs.History

/-!
# A connection and its history

`Connection.Tracks p past i c` says that connection `i`, which is `c`, is what the history `past`
makes of it: it has the session, the phase and the accepted payloads that the history tells.  For
each kind of thing that may happen there is a lemma that carries this on.

A phase is less than what a history knows: to be asked for the end is one thing and to be over
another, and between them a connection is neither connected nor gone.  So phases are compared by
what they exclude (`connected_iff`, `disconnected_iff`), and the rest of the fields say what else a
history tells.

* `Tracks.cons`: a connection that goes on is sent what is due to it.
-/

namespace ChatLobby

open History

/-- `c.Tracks p past i`: connection `i` is what the history makes of it. -/
structure Connection.Tracks (p : FramePolicy) (past : History) (i : ConnectionId)
    (c : Connection Session) : Prop where
  session_eq : c.session = sessionOf i past
  accepted_eq : c.accepted = ServerPacket.frames p (sentTo i past)
  connected_iff : c.phase = .connected ↔ past.IsConnected i
  disconnected_iff : c.phase = .disconnected ↔ .dismissed i ∈ past
  started : c.phase ≠ .pending
  greeted_iff : c.greeted = true ↔ .admitted i ∈ past ∨ .rejected i ∈ past

/-- `c.Alike c'`: the two connections differ only in what no history speaks about. -/
structure Connection.Alike {τ : Type} (c c' : Connection τ) : Prop where
  session_eq : c'.session = c.session
  accepted_eq : c'.accepted = c.accepted
  phase_eq : c'.phase = c.phase
  greeted_eq : c'.greeted = c.greeted

namespace Connection

variable {p : FramePolicy} {past : History} {e : Happening} {i : ConnectionId}
  {c c' : Connection Session}

/-- What no history speaks about may be anything. -/
theorem Tracks.alike (h : c.Tracks p past i) (hsame : c.Alike c') : c'.Tracks p past i where
  session_eq := hsame.session_eq.trans h.session_eq
  accepted_eq := hsame.accepted_eq.trans h.accepted_eq
  connected_iff := by rw [hsame.phase_eq, h.connected_iff]
  disconnected_iff := by rw [hsame.phase_eq, h.disconnected_iff]
  started := by rw [hsame.phase_eq]; exact h.started
  greeted_iff := by rw [hsame.greeted_eq, h.greeted_iff]

/-- What a connection accepts of what it is sent is what was due to it while it was connected. -/
theorem Tracks.accepted_sendAll (h : c.Tracks p past i) (e : Happening) :
    (c.sendAll (ServerPacket.frames p (due i e past))).accepted =
      ServerPacket.frames p (sentTo i (e :: past)) := by
  rw [Connection.accepted_sendAll, h.accepted_eq, sentTo, ServerPacket.frames_append]
  by_cases hconnected : past.IsConnected i
  · rw [if_pos hconnected, if_pos (h.connected_iff.mpr hconnected)]
  · rw [if_neg hconnected, if_neg fun hphase => hconnected (h.connected_iff.mp hphase)]
    rfl

/-- A connection that neither begins nor ends is sent what is due to it, and its session is what the
history makes of it. -/
theorem Tracks.cons (h : c.Tracks p past i) (hi : i.index < past.arrivals)
    (hadmitted : e ≠ .admitted i) (hrejected : e ≠ .rejected i) (hasked : e ≠ .asked i)
    (hdismissed : e ≠ .dismissed i) :
    (({ c with session := sessionOf i (e :: past) } : Connection Session).sendAll
      (ServerPacket.frames p (due i e past))).Tracks p (e :: past) i := by
  have hc : ({ c with session := sessionOf i past } : Connection Session) = c := by
    rw [← h.session_eq]
  have htouched := touched_sendAll ({ c with session := sessionOf i (e :: past) })
    (ServerPacket.frames p (due i e past))
  refine ⟨htouched.session_eq, ?_, ?_, ?_, ?_, ?_⟩
  · rw [Connection.accepted_sendAll]
    exact (Connection.accepted_sendAll c _).symm.trans (h.accepted_sendAll e)
  · rw [phase_sendAll, isConnected_cons_iff hi]
    simp [hrejected, hasked, hdismissed, h.connected_iff]
  · rw [phase_sendAll, List.mem_cons]
    simp [hdismissed.symm, h.disconnected_iff]
  · rw [phase_sendAll]
    exact h.started
  · rw [htouched.greeted_eq, List.mem_cons, List.mem_cons]
    simp [hadmitted.symm, hrejected.symm, h.greeted_iff]

/-- What happens to others leaves a connection as it is, but for what it is sent. -/
theorem Tracks.cons_of_ne (h : c.Tracks p past i) (hi : i.index < past.arrivals)
    (hne : e.subject? ≠ some i) :
    (c.sendAll (ServerPacket.frames p (due i e past))).Tracks p (e :: past) i := by
  have hcons := h.cons hi (e := e) (by rintro rfl; exact hne rfl) (by rintro rfl; exact hne rfl)
    (by rintro rfl; exact hne rfl) (by rintro rfl; exact hne rfl)
  rw [sessionOf_cons_of_ne hne, ← h.session_eq] at hcons
  exact hcons

/-- A connection that is admitted has greeted the lobby, and nobody is told. -/
theorem Tracks.admitted (h : c.Tracks p past i) (hi : i.index < past.arrivals) :
    ({ c with greeted := true } : Connection Session).Tracks p (.admitted i :: past) i where
  session_eq := h.session_eq
  accepted_eq := by
    rw [sentTo, ServerPacket.frames_append, ← h.accepted_eq]
    split <;> exact (List.append_nil _).symm
  connected_iff := by
    rw [isConnected_cons_iff hi]
    simp [h.connected_iff]
  disconnected_iff := by
    rw [List.mem_cons]
    simp [h.disconnected_iff]
  started := h.started
  greeted_iff := by simp

/-- Asking for the end changes the phase of connected ones only, once they are started. -/
theorem phase_disconnect (hstarted : c.phase ≠ .pending) :
    c.disconnect.2.phase = if c.phase = .connected then .disconnecting else c.phase := by
  unfold Connection.disconnect
  split
  · next hphase => exact absurd hphase hstarted
  · next hphase => rw [if_pos hphase]; rfl
  · next hphase => simp [hphase]
  · next hphase => simp [hphase]

theorem not_connected_disconnect (hstarted : c.phase ≠ .pending) :
    c.disconnect.2.phase ≠ .connected := by
  rw [phase_disconnect hstarted]
  split
  · rintro ⟨⟩
  · next h => exact h

theorem disconnected_disconnect_iff (hstarted : c.phase ≠ .pending) :
    c.disconnect.2.phase = .disconnected ↔ c.phase = .disconnected := by
  rw [phase_disconnect hstarted]
  split
  · next h => simp [h]
  · rfl

theorem started_disconnect (hstarted : c.phase ≠ .pending) : c.disconnect.2.phase ≠ .pending := by
  rw [phase_disconnect hstarted]
  split
  · rintro ⟨⟩
  · exact hstarted

/-- A connection that is asked to end is connected no more. -/
theorem Tracks.asked (h : c.Tracks p past i) : c.disconnect.2.Tracks p (.asked i :: past) i := by
  obtain ⟨hsession, haccepted, hgreeted⟩ := disconnect_eq c
  refine ⟨hsession.trans h.session_eq, ?_, ?_, ?_, started_disconnect h.started, ?_⟩
  · rw [haccepted, h.accepted_eq, sentTo]
    simp [due]
  · simp [not_connected_disconnect h.started, History.IsConnected]
  · rw [disconnected_disconnect_iff h.started, h.disconnected_iff]
    simp
  · rw [hgreeted, h.greeted_iff]
    simp

/-- A connection that is rejected has greeted the lobby and is asked to end. -/
theorem Tracks.rejected (h : c.Tracks p past i) :
    ({ c with greeted := true } : Connection Session).disconnect.2.Tracks p (.rejected i :: past)
      i := by
  obtain ⟨hsession, haccepted, hgreeted⟩ := disconnect_eq { c with greeted := true }
  refine ⟨hsession.trans h.session_eq, ?_, ?_, ?_, started_disconnect h.started, ?_⟩
  · rw [haccepted, sentTo]
    simp [due, h.accepted_eq]
  · simp [not_connected_disconnect (c := { c with greeted := true }) h.started, History.IsConnected]
  · rw [disconnected_disconnect_iff (c := { c with greeted := true }) h.started]
    simp [h.disconnected_iff]
  · rw [hgreeted]
    simp

/-- A connection that is shut is as it was, but not connected. -/
theorem shut_spec (c : Connection Session) :
    c.shut.session = c.session ∧ c.shut.accepted = c.accepted ∧ c.shut.greeted = c.greeted ∧
      c.shut.phase ≠ .connected := by
  rw [shut, claimEnd]
  split
  · exact ⟨rfl, rfl, rfl, by rintro ⟨⟩⟩
  · next h => exact ⟨rfl, rfl, rfl, by simpa [isConnected] using h⟩

theorem Tracks.over (h : c.Tracks p past i)
    (hsession : c'.session = { c.session with room := none })
    (haccepted : c'.accepted = c.accepted) (hphase : c'.phase = .disconnected)
    (hgreeted : c'.greeted = c.greeted) : c'.Tracks p (.dismissed i :: past) i := by
  refine ⟨?_, ?_, ?_, ?_, ?_, ?_⟩
  · rw [hsession, h.session_eq, sessionOf, sessionOf, roomOf_dismissed]
    rfl
  · -- whoever leaves is not among those who are told
    have hnothing : due i (.dismissed i) past = [] := by
      rw [due, onLeaving]
      split
      · rw [announced, roomOf_leave]
        rfl
      · rfl
    rw [haccepted, h.accepted_eq, sentTo, hnothing]
    simp
  · simp [hphase, History.IsConnected]
  · simp [hphase]
  · simp [hphase]
  · rw [hgreeted, h.greeted_iff]
    simp

/-- The connection when it has left its room and its handler was told of the end. -/
def dismissed (reason : DisconnectReason) (c : Connection Session) : Connection Session :=
  (c.shut.withSession { c.session with room := none }).finish reason

/-- A connection that was torn down is dismissed. -/
theorem Tracks.dismissed (h : c.Tracks p past i) (reason : DisconnectReason) :
    (c.dismissed reason).Tracks p (.dismissed i :: past) i := by
  obtain ⟨-, haccepted, hgreeted, -⟩ := c.shut_spec
  exact h.over rfl haccepted rfl hgreeted

/-- **A connection that arrives tracks the history**, which cannot have said anything about it
before. -/
theorem Tracks.fresh (hp : Possible p past) (hi : i.index = past.arrivals)
    (hsession : c.session = {}) (haccepted : c.accepted = []) (hphase : c.phase = .connected)
    (hgreeted : c.greeted = false) : c.Tracks p (.arrived :: past) i := by
  have hout : ∀ e ∈ past, e.subject? ≠ some i := by
    intro e hmem hsubject
    have := hp.index_lt_of_mem hmem hsubject
    omega
  have hadmitted : .admitted i ∉ past := fun hmem => hout _ hmem rfl
  have hrejected : .rejected i ∉ past := fun hmem => hout _ hmem rfl
  have hasked : .asked i ∉ past := fun hmem => hout _ hmem rfl
  have hdismissed : .dismissed i ∉ past := fun hmem => hout _ hmem rfl
  refine ⟨?_, ?_, ?_, ?_, ?_, ?_⟩
  · rw [hsession]
    exact (hp.sessionOf_fresh (Nat.le_of_eq hi.symm)).symm
  · rw [haccepted, sentTo, sentTo_fresh (Nat.le_of_eq hi.symm)]
    simp [due, ServerPacket.frames]
  · have harrived : i.index < arrivals (.arrived :: past) := by
      rw [arrivals_cons_arrived]
      omega
    simp [hphase, History.IsConnected, harrived, hrejected, hasked, hdismissed]
  · simp [hphase, hdismissed]
  · simp [hphase]
  · simp [hgreeted, hadmitted, hrejected]

end Connection

end ChatLobby
