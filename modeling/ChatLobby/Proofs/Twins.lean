import ChatLobby.Proofs.Apart
import ChatLobby.Proofs.Following

/-!
# Connections that differ in what they were sent

What a connection is sent waits in its queue and goes out, and nothing else that it does depends on
it, nor on how far the sending side is.  So in two servers a connection is the same but for that,
and the same altogether if it was sent the same (`Connection.Twin`).

* `bare_advanced`: what a connection makes of itself does not depend on what it was sent.
* `Twin.of_touched`: twins that are sent over and asked to end stay twins.
-/

namespace ChatLobby

open History

namespace Connection

/-! ## Without what was sent

Two connections that were sent different things are compared by what is left of them without it. All
that a connection does commutes with that, but for one thing: whether there is something to go on
with. -/

section Bare

variable {τ : Type} {c c' d d' : Connection τ}

/-- The connection without what it was sent: with nothing queued, accepted or delivered, and a
sending side that has nothing to do. -/
def bare (c : Connection τ) : Connection τ :=
  { c with
    queue := []
    sender := {}
    accepted := []
    socket := { c.socket with delivered := [] } }

/-- To go on with sending changes nothing else. -/
theorem bare_sendOn (c : Connection τ) (pace : Pace) : (c.sendOn pace).2.bare = c.bare := by
  rw [(c.sendsOn pace).rest_eq]
  rfl

theorem bare_sendAll (c : Connection τ) (payloads : List Bytes) :
    (c.sendAll payloads).bare = c.bare := by
  induction payloads generalizing c with
  | nil => rfl
  | cons data payloads ih =>
    have hsent : (c.send data).2.bare = c.bare := by
      rw [send_eq]
      rfl
    exact (ih _).trans hsent

theorem bare_disconnect (c : Connection τ) : c.disconnect.2.bare = c.bare.disconnect.2 := by
  have hphase : c.bare.phase = c.phase := rfl
  unfold disconnect
  rw [hphase]
  cases c.phase <;> rfl

/-- What connections are sent does not matter to what else becomes of them. -/
theorem Touched.bare_eq (h : c.Touched d) (h' : c'.Touched d') (hbare : c'.bare = c.bare)
    (hphase : d'.phase = d.phase) : d'.bare = d.bare := by
  have hbefore : c'.bare.phase = c.bare.phase := by rw [hbare]
  change c'.phase = c.phase at hbefore
  obtain ⟨payloads, rfl | ⟨hne, rfl⟩⟩ := h.exists_sendAll
  · obtain ⟨more, rfl | ⟨hne', rfl⟩⟩ := h'.exists_sendAll
    · rw [bare_sendAll, bare_sendAll, hbare]
    · rw [phase_sendAll, ← hbefore] at hphase
      exact absurd hphase hne'
  · obtain ⟨more, rfl | ⟨hne', rfl⟩⟩ := h'.exists_sendAll
    · rw [phase_sendAll, hbefore] at hphase
      exact absurd hphase.symm hne
    · rw [bare_disconnect, bare_disconnect, bare_sendAll, bare_sendAll, hbare]

theorem bare_peerSends (c : Connection τ) (data : Bytes) :
    (c.peerSends data).bare = c.bare.peerSends data := by
  have hpeer : c.bare.hasPeer = c.hasPeer := rfl
  rw [peerSends, peerSends, hpeer]
  split <;> rfl

theorem bare_peerEnds (c : Connection τ) (how : RemoteSide) :
    (c.peerEnds how).bare = c.bare.peerEnds how := by
  have hpeer : c.bare.hasPeer = c.hasPeer := rfl
  rw [peerEnds, peerEnds, hpeer]
  split <;> rfl

theorem bare_fetch (c : Connection τ) (pace : Pace) :
    c.bare.fetch pace = (c.fetch pace).map bare := by
  rw [fetch, fetch]
  dsimp only [bare]
  generalize Cursor.commit _ _ = committed
  cases committed <;> rfl

/-- Only to go on with sending one has to be woken. -/
theorem mayDo_bare {progress : Progress} (h : progress ≠ .flush) :
    c.bare.MayDo progress ↔ c.MayDo progress := by
  cases progress with
  | flush => exact absurd rfl h
  | greet | obey | receive | endOfStream | brokenOff => exact Iff.rfl

end Bare

/-- **What a connection makes of itself** does not depend on what it was sent. -/
theorem bare_advanced (p : FramePolicy) (pace : Pace) (c : Connection Session)
    {progress : Progress} (h : progress ≠ .flush) :
    c.bare.advanced p pace progress =
      ((c.advanced p pace progress).1.bare, (c.advanced p pace progress).2) := by
  cases progress with
  | flush => exact absurd rfl h
  | greet | obey | endOfStream | brokenOff => rfl
  | receive =>
    rw [advanced, advanced, bare_fetch]
    cases c.fetch pace with
    | error cause => rfl
    | ok c =>
      dsimp only [Except.map]
      have hreceipt : Lobby.receipt p c.bare.session c.bare.cursor.view =
          Lobby.receipt p c.session c.cursor.view := rfl
      rw [hreceipt]
      cases Lobby.receipt p c.session c.cursor.view with
      | error cause => rfl
      | ok used =>
        dsimp only
        have hconsume : c.bare.cursor.consume used = c.cursor.consume used := rfl
        rw [hconsume]
        cases c.cursor.consume used <;> rfl

theorem bare_concluded (c : Connection Session) (end? : Option DisconnectReason) :
    (c.concluded end?).bare = c.bare.concluded end? := by
  cases end? with
  | none => rfl
  | some outcome =>
    have hphase : c.bare.isConnected = c.isConnected := rfl
    rw [concluded, concluded, dismissed, dismissed, shut, shut, reasonFor, reasonFor, claimEnd,
      claimEnd, hphase]
    split <;> rfl

/-! ## Twins

A connection that met `x` may have been sent other things in the other server; one that did not was
sent the same, and is the same. -/

/-- `Twin x k past past' c c'`: in two servers with these histories connection `k` is the same, but
for what it was sent if it met `x`. -/
structure Twin (x k : ConnectionId) (past past' : History) (c c' : Connection Session) : Prop where
  bare_eq : c'.bare = c.bare
  eq_of_apart : Apart x k past → Apart x k past' → c' = c

/-- The history tells the phase. -/
theorem Tracks.phase_eq {p : FramePolicy} {past past' : History} {k : ConnectionId}
    {c c' : Connection Session} (h : c.Tracks p past k) (h' : c'.Tracks p past' k)
    (hconnected : past'.IsConnected k ↔ past.IsConnected k)
    (hdismissed : .dismissed k ∈ past' ↔ .dismissed k ∈ past) : c'.phase = c.phase := by
  rw [← h.connected_iff, ← h'.connected_iff] at hconnected
  rw [← h.disconnected_iff, ← h'.disconnected_iff] at hdismissed
  have hstarted := h.started
  have hstarted' := h'.started
  cases hphase : c.phase <;> cases hphase' : c'.phase <;> simp_all

namespace Twin

variable {p : FramePolicy} {past past' now now' : History} {x k : ConnectionId}
  {c c' d d' : Connection Session}

theorem symm (h : Twin x k past past' c c') : Twin x k past' past c' c where
  bare_eq := h.bare_eq.symm
  eq_of_apart hapart hapart' := (h.eq_of_apart hapart' hapart).symm

/-- Who was apart later was apart before, so that more history asks for less. -/
theorem of_suffix (h : Twin x k past past' c c') (hpast : past <:+ now) (hpast' : past' <:+ now') :
    Twin x k now now' c c' where
  bare_eq := h.bare_eq
  eq_of_apart hapart hapart' := h.eq_of_apart (hapart.of_suffix hpast) (hapart'.of_suffix hpast')

theorem map (h : Twin x k past past' c c') {f : Connection Session → Connection Session}
    (hf : ∀ c, (f c).bare = f c.bare) : Twin x k past past' (f c) (f c') where
  bare_eq := by rw [hf, hf, h.bare_eq]
  eq_of_apart hapart hapart' := by rw [h.eq_of_apart hapart hapart']

/-- Twins make the same of themselves. -/
theorem advanced (h : Twin x k past past' c c') (p : FramePolicy) (pace : Pace)
    (progress : Progress) :
    Twin x k past past' (c.advanced p pace progress).1 (c'.advanced p pace progress).1 where
  bare_eq := by
    by_cases hflush : progress = .flush
    · subst hflush
      show (c'.sendOn pace).2.bare = (c.sendOn pace).2.bare
      rw [bare_sendOn, bare_sendOn, h.bare_eq]
    · have hmade := congrArg Prod.fst (bare_advanced p pace c hflush)
      have hmade' := congrArg Prod.fst (bare_advanced p pace c' hflush)
      rw [h.bare_eq] at hmade'
      exact hmade'.symm.trans hmade
  eq_of_apart hapart hapart' := by rw [h.eq_of_apart hapart hapart']

/-- Twins end for the same reason, unless a failed write is one. -/
theorem end_eq (h : Twin x k past past' c c') (p : FramePolicy) (pace : Pace)
    {progress : Progress} (hflush : progress ≠ .flush) :
    (c'.advanced p pace progress).2 = (c.advanced p pace progress).2 := by
  have hend := congrArg Prod.snd (bare_advanced p pace c hflush)
  have hend' := congrArg Prod.snd (bare_advanced p pace c' hflush)
  rw [h.bare_eq] at hend'
  exact hend'.symm.trans hend

/-- **Twins that are sent over and asked to end stay twins**, if their histories tell that. -/
theorem of_touched (h : Twin x k past past' c c') (hd : c.Touched d) (hd' : c'.Touched d')
    (htracks : d.Tracks p now k) (htracks' : d'.Tracks p now' k) (htold : SameTold x now now')
    (hk : k ≠ x) (hpast : past <:+ now) (hpast' : past' <:+ now') : Twin x k now now' d d' := by
  have hphase : d'.phase = d.phase :=
    htracks.phase_eq htracks' (htold.isConnected_iff hk) (htold.mem_iff k _ hk rfl)
  refine ⟨hd.bare_eq hd' h.bare_eq hphase, fun hapart hapart' => ?_⟩
  have hsame := h.eq_of_apart (hapart.of_suffix hpast) (hapart'.of_suffix hpast')
  rw [hsame] at hd'
  -- those who were apart from `x` were sent the same
  apply hd'.unique hd hphase
  rw [htracks.accepted_eq, htracks'.accepted_eq, htold.sent_eq k hk hapart hapart']

end Twin

end Connection

/-! ## What happens

What happens is known from what is received and from whether the registry has room, and neither is
different for twins. -/

/-- What happens in the lobby does not depend on what a connection was sent. -/
theorem Hub.happenings_bare (h : Hub Lobby Session) (i : ConnectionId) (c : Connection Session)
    (pace : Pace) (progress : Progress) :
    h.happenings i c.bare pace progress = h.happenings i c pace progress := by
  cases progress with
  | greet | obey | endOfStream | brokenOff | flush => rfl
  | receive =>
    rw [happenings, happenings, Connection.bare_fetch]
    cases c.fetch pace <;> rfl

/-- The same happens in two lobbies, if nobody is rejected. -/
theorem Hub.happenings_eq {h h' : Hub Lobby Session} {i : ConnectionId} {c c' : Connection Session}
    {pace : Pace} {progress : Progress} (hpolicy : h'.shared.policy = h.shared.policy)
    (hbare : c'.bare = c.bare) (hadmits : .rejected i ∉ h.happenings i c pace progress)
    (hadmits' : .rejected i ∉ h'.happenings i c' pace progress) :
    h'.happenings i c' pace progress = h.happenings i c pace progress := by
  rw [← happenings_bare, hbare, happenings_bare]
  cases progress with
  | greet =>
    rw [happenings] at hadmits hadmits' ⊢
    rw [happenings]
    cases hinsert : h.shared.registry.insert i with
    | error full =>
      rw [hinsert] at hadmits
      exact absurd List.mem_cons_self hadmits
    | ok registry =>
      cases hinsert' : h'.shared.registry.insert i with
      | error full =>
        rw [hinsert'] at hadmits'
        exact absurd List.mem_cons_self hadmits'
      | ok registry => rfl
  | receive => rw [happenings, happenings, hpolicy]
  | obey | endOfStream | brokenOff | flush => rfl

end ChatLobby
