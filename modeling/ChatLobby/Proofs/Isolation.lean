import ChatLobby.Proofs.Membership
import ChatLobby.Proofs.PacketRoundTrip
import ChatLobby.Proofs.Twins

/-!
# Rooms are isolated

Two runs of a server in which all clients but `x` do the same are compared, step by step
(`Server.Twins`): a move of `x` may be made in one of them only, and any other move is made in both.

* `Twins.move_left`: what `x` does, those who are apart from it do not see.
* `Twins.move`: what others do, they do in both servers.
* `Server.rooms_isolated`: runs.
-/

namespace ChatLobby

open History

/-! ## Sending

Twins that met `x` may have different things to write.  As long as their sockets take something,
that does not show: a failed write is the only thing about sending that others could notice. -/

/-- Whether the socket takes something of whatever it is offered. -/
def Pace.Takes (pace : Pace) : Prop := ∀ n, 0 < n → 0 < pace.write n

namespace Server

/-- When a connection goes on with sending, nothing happens. -/
theorem flush_of_takes {p : FramePolicy} {past : History} {s : Server} {i : ConnectionId}
    {c : Connection Session} (hf : s.hub.Follows p past) (hc : s.hub.connection? i = some c)
    {pace : Pace} (htakes : pace.Takes) (hbatch : [] ∉ c.sender.batch) :
    s.happenings (.progress i .flush pace) = [] ∧
      (s.move (.progress i .flush pace)).hub.connection? i =
        some (if c.MayDo .flush then (c.sendOn pace).2 else c) := by
  by_cases hmay : c.MayDo .flush
  · obtain ⟨told, hwritten⟩ := Connection.sendOn_of_takes htakes hbatch
    have hend : (c.advanced p pace .flush).2 = none := by
      rw [Connection.advanced]
      simp only [hwritten]
    obtain ⟨⟨d, htracks, htouched, hself⟩, -, -⟩ := hf.advance hc hmay pace
    have hbefore := hf.tracks i c hc
    have hsession : d.session = c.session := htracks.session_eq.trans hbefore.session_eq.symm
    rw [hsession] at htouched
    -- nothing is sent meanwhile
    have hsame : d = (c.sendOn pace).2 := by
      rw [Connection.advanced, (c.sendsOn pace).rest_eq] at htouched
      rw [(c.sendsOn pace).rest_eq]
      exact htouched.unique (.refl _) (hbefore.phase_eq htracks Iff.rfl Iff.rfl)
        (htracks.accepted_eq.trans hbefore.accepted_eq.symm)
    rw [happenings_progress hf hc hmay, move_progress hf hc hmay, hself, hend, if_pos hmay, hsame]
    exact ⟨rfl, rfl⟩
  · have hidle : ∀ d, s.hub.connection? i = some d → ¬ d.MayDo .flush := by
      intro d hd
      rwa [← Option.some.inj (hc.symm.trans hd)]
    obtain ⟨hmove, hhappenings⟩ := move_progress_of_not hidle pace
    rw [hmove, hhappenings, hc, if_neg hmay]
    exact ⟨rfl, rfl⟩

/-! ## Two servers

The relation between the servers says nothing of `x` and everything of the others.  It is kept by
each move of `x` in one of the servers, since such a move only sends over others and asks them to
end, and by each other move in both. -/

/-- `Twins x p past past' s s'`: the servers have these histories and are the same but for `x`, and
for what those were sent who met it. -/
structure Twins (x : ConnectionId) (p : FramePolicy) (past past' : History) (s s' : Server) :
    Prop where
  follows : s.hub.Follows p past
  follows' : s'.hub.Follows p past'
  told : SameTold x past past'
  sizing_eq : s'.sizing = s.sizing
  acceptor_eq : s'.acceptor = s.acceptor
  twin : ∀ k c c', k ≠ x → s.hub.connection? k = some c → s'.hub.connection? k = some c' →
    Connection.Twin x k past past' c c'

namespace Twins

variable {x i k : ConnectionId} {p : FramePolicy} {past past' now now' : History}
  {s s' t t' : Server} {m : Move} {c c' : Connection Session}

theorem opened (x : ConnectionId) (p : FramePolicy) (address : SocketAddress)
    (sizing : ReceiveSizing) (capacity : Nat) :
    Twins x p [] [] (opened address sizing capacity p) (.opened address sizing capacity p) where
  follows := .nil capacity p
  follows' := .nil capacity p
  told := .nil x
  sizing_eq := rfl
  acceptor_eq := rfl
  twin k c c' _ hc _ := by simp [Server.opened, Hub.connection?] at hc

theorem symm (h : Twins x p past past' s s') : Twins x p past' past s' s where
  follows := h.follows'
  follows' := h.follows
  told := h.told.symm
  sizing_eq := h.sizing_eq.symm
  acceptor_eq := h.acceptor_eq.symm
  twin k c c' hk hc hc' := (h.twin k c' c hk hc' hc).symm

theorem length_eq (h : Twins x p past past' s s') :
    s'.hub.connections.length = s.hub.connections.length := by
  rw [h.follows'.length_eq, h.follows.length_eq, h.told.arrivals_eq]

theorem exists_connection? (h : Twins x p past past' s s') (hc : s.hub.connection? k = some c) :
    ∃ c', s'.hub.connection? k = some c' := by
  apply Hub.exists_connection?
  rw [h.length_eq]
  exact (List.getElem?_eq_some_iff.mp hc).1

theorem connection?_eq_none_iff (h : Twins x p past past' s s') :
    s'.hub.connection? k = none ↔ s.hub.connection? k = none := by
  rw [Hub.connection?, Hub.connection?, List.getElem?_eq_none_iff, List.getElem?_eq_none_iff,
    h.length_eq]

/-- **Connections that are only sent over and asked to end stay twins**, so after a change that
connection `i` made it is left to see to `i`. -/
theorem of_within (h : Twins x p past past' s s') (hf : t.hub.Follows p now)
    (hf' : t'.hub.Follows p now') (htold : SameTold x now now') (hpast : past <:+ now)
    (hpast' : past' <:+ now') (hsizing : t'.sizing = t.sizing)
    (hacceptor : t'.acceptor = t.acceptor) (hwithin : s.hub.Within i t.hub)
    (hwithin' : s'.hub.Within i t'.hub)
    (hself : ∀ c c', i ≠ x → t.hub.connection? i = some c → t'.hub.connection? i = some c' →
      Connection.Twin x i now now' c c') : Twins x p now now' t t' := by
  refine ⟨hf, hf', htold, hsizing, hacceptor, fun k d d' hk hd hd' => ?_⟩
  -- -- the connection of the move is seen to by the caller, the others were touched at most
  by_cases hki : k = i
  · subst hki
    exact hself d d' hk hd hd'
  · have hlt := (List.getElem?_eq_some_iff.mp hd).1
    rw [hwithin.length_eq] at hlt
    obtain ⟨c, hc⟩ := Hub.exists_connection? (h := s.hub) (i := k) hlt
    obtain ⟨c', hc'⟩ := h.exists_connection? hc
    obtain ⟨e, he, htouched⟩ := hwithin.touches k hki c hc
    obtain ⟨e', he', htouched'⟩ := hwithin'.touches k hki c' hc'
    cases he.symm.trans hd
    cases he'.symm.trans hd'
    exact (h.twin k c c' hk hc hc').of_touched htouched htouched' (hf.tracks k _ hd)
      (hf'.tracks k _ hd') htold hk hpast hpast'

/-- **What `x` does** may be done in one of the servers only. -/
theorem move_left (h : Twins x p past past' s s') (hm : m.subject? = some x) :
    Twins x p ((s.happenings m).reverse ++ past) past' (s.move m) s' := by
  have htold := h.told.append_left (s.happenings m).reverse fun e he =>
    subject?_of_mem_happenings hm (List.mem_reverse.mp he)
  refine h.of_within (follows_move h.follows m) h.follows' htold (List.suffix_append ..)
    List.suffix_rfl ?_ ?_ (within_move h.follows hm) (.refl s'.hub x) fun _ _ hx => absurd rfl hx
  · rw [h.sizing_eq]
    cases m <;> first | rfl | cases hm
  · rw [h.acceptor_eq]
    cases m <;> first | rfl | cases hm

/-- The peer of a connection other than `x` does something in both servers. -/
theorem modify {f : Connection Session → Connection Session} (h : Twins x p past past' s s')
    (hi : i ≠ x) (hf : (s.hub.modify i f).Follows p past)
    (hf' : (s'.hub.modify i f).Follows p past') (hbare : ∀ c, (f c).bare = f c.bare) :
    Twins x p past past' { s with hub := s.hub.modify i f }
      { s' with hub := s'.hub.modify i f } := by
  refine h.of_within hf hf' h.told List.suffix_rfl List.suffix_rfl h.sizing_eq h.acceptor_eq
    (Hub.within_modify s.hub i f) (Hub.within_modify s'.hub i f) fun e e' _ he he' => ?_
  cases hc : s.hub.connection? i with
  | none =>
    have hnone : (s.hub.modify i f).connection? i = none := by
      simp only [Hub.connection?, List.getElem?_eq_none_iff] at hc ⊢
      rwa [Hub.length_modify]
    cases hnone.symm.trans he
  | some c =>
    obtain ⟨c', hc'⟩ := h.exists_connection? hc
    cases (Hub.connection?_modify_self f hc).symm.trans he
    cases (Hub.connection?_modify_self f hc').symm.trans he'
    exact (h.twin i c c' hi hc hc').map hbare

/-- **A client connects** to both servers. -/
theorem connect (h : Twins x p past past' s s') (peer : SocketAddress) :
    Twins x p ((s.happenings (.connect peer)).reverse ++ past)
      ((s'.happenings (.connect peer)).reverse ++ past') (s.move (.connect peer))
      (s'.move (.connect peer)) := by
  have hf := follows_move h.follows (.connect peer)
  have hf' := follows_move h.follows' (.connect peer)
  by_cases hrunning : s.acceptor = .running
  · have hrunning' : s'.acceptor = .running := h.acceptor_eq.trans hrunning
    obtain ⟨g, hmove, -, -, hconnections⟩ := s.move_connect hrunning peer
    obtain ⟨g', hmove', -, -, hconnections'⟩ := s'.move_connect hrunning' peer
    rw [hmove, happenings, if_pos hrunning] at hf ⊢
    rw [hmove', happenings, if_pos hrunning'] at hf' ⊢
    refine ⟨hf, hf', h.told.cons (by rintro ⟨⟩), h.sizing_eq, h.acceptor_eq,
      fun k d d' hk hd hd' => ?_⟩
    have hnext : s'.hub.nextId = s.hub.nextId := congrArg ConnectionId.mk h.length_eq
    rw [hconnections] at hd
    rw [hconnections', hnext, h.sizing_eq] at hd'
    -- the new connection is the same, and it was sent nothing
    split at hd
    · next hnew =>
      rw [if_pos hnew] at hd'
      cases hd
      cases hd'
      exact ⟨rfl, fun _ _ => rfl⟩
    · next hold =>
      rw [if_neg hold] at hd'
      exact (h.twin k d d' hk hd hd').of_suffix (List.suffix_cons ..) (List.suffix_cons ..)
  · have hrunning' : s'.acceptor ≠ .running := fun h' => hrunning (h.acceptor_eq.symm.trans h')
    rw [s.move_connect_of_ne hrunning, happenings, if_neg hrunning, s'.move_connect_of_ne hrunning',
      happenings, if_neg hrunning']
    exact h

/-- **A connection other than `x` does something by itself** in both servers. -/
theorem advance {progress : Progress} {pace : Pace} (h : Twins x p past past' s s') (hi : i ≠ x)
    (hc : s.hub.connection? i = some c) (hc' : s'.hub.connection? i = some c')
    (hmay : c.MayDo progress) (hmay' : c'.MayDo progress)
    (hhappenings : s'.hub.happenings i c' pace progress = s.hub.happenings i c pace progress)
    (hend : (c'.advanced p pace progress).2 = (c.advanced p pace progress).2) :
    Twins x p ((s.happenings (.progress i progress pace)).reverse ++ past)
      ((s'.happenings (.progress i progress pace)).reverse ++ past')
      (s.move (.progress i progress pace)) (s'.move (.progress i progress pace)) := by
  have hm : (Move.progress i progress pace).subject? = some i := rfl
  have hall : s'.happenings (.progress i progress pace) =
      s.happenings (.progress i progress pace) := by
    rw [happenings_progress h.follows hc hmay, happenings_progress h.follows' hc' hmay',
      hhappenings, hend]
  have hothers : ∀ e : Happening, e.subject? = some i → e.subject? ≠ some x :=
    fun e he => Happening.subject?_ne he hi.symm
  have htold := h.told.append (s.happenings (.progress i progress pace)).reverse
    fun e he => hothers e (subject?_of_mem_happenings hm (List.mem_reverse.mp he))
  have hnow := h.told.append (s.hub.happenings i c pace progress).reverse
    fun e he => hothers e (subject?_of_mem_hub_happenings (List.mem_reverse.mp he))
  obtain ⟨⟨d, htracks, htouched, hself⟩, -, -⟩ := h.follows.advance hc hmay pace
  obtain ⟨⟨d', htracks', htouched', hself'⟩, -, -⟩ := h.follows'.advance hc' hmay' pace
  rw [hhappenings] at htracks'
  have hsession : d'.session = d.session := by
    rw [htracks.session_eq, htracks'.session_eq, hnow.session_eq i hi]
  rw [hsession] at htouched'
  -- what it makes of itself is the same, and so is what the lobby makes of it
  have hmade := ((h.twin i c c' hi hc hc').advanced p pace progress).map
    (f := fun c => c.withSession d.session) fun _ => rfl
  have hgone := hmade.of_touched htouched htouched' htracks htracks' hnow hi
    (List.suffix_append ..) (List.suffix_append ..)
  have hdone := hgone.map (f := fun d => d.concluded (c.advanced p pace progress).2)
    fun d => d.bare_concluded _
  refine h.of_within (follows_move h.follows _) (follows_move h.follows' _) ?_
    (List.suffix_append ..) (List.suffix_append ..) h.sizing_eq h.acceptor_eq
    (within_move h.follows hm) (within_move h.follows' hm) fun e e' _ he he' => ?_
  · rw [hall]
    exact htold
  · rw [move_progress h.follows hc hmay, hself] at he
    rw [move_progress h.follows' hc' hmay', hself', hend] at he'
    cases he
    cases he'
    rw [hall, happenings_progress h.follows hc hmay, List.reverse_append, List.append_assoc,
      List.append_assoc]
    exact hdone.of_suffix (List.suffix_append ..) (List.suffix_append ..)

/-- **A connection other than `x` goes on with sending**, if it was woken; the socket takes
something of what it is offered. -/
theorem flush {pace : Pace} (h : Twins x p past past' s s') (hi : i ≠ x) (htakes : pace.Takes)
    (hbatch : ∀ c, s.hub.connection? i = some c → [] ∉ c.sender.batch)
    (hbatch' : ∀ c, s'.hub.connection? i = some c → [] ∉ c.sender.batch)
    (hc : s.hub.connection? i = some c) (hc' : s'.hub.connection? i = some c') :
    Twins x p ((s.happenings (.progress i .flush pace)).reverse ++ past)
      ((s'.happenings (.progress i .flush pace)).reverse ++ past')
      (s.move (.progress i .flush pace)) (s'.move (.progress i .flush pace)) := by
  have hm : (Move.progress i .flush pace).subject? = some i := rfl
  have hf := follows_move h.follows (.progress i .flush pace)
  have hf' := follows_move h.follows' (.progress i .flush pace)
  obtain ⟨hhappenings, hself⟩ := flush_of_takes h.follows hc htakes (hbatch c hc)
  obtain ⟨hhappenings', hself'⟩ := flush_of_takes h.follows' hc' htakes (hbatch' c' hc')
  have hdone := (h.twin i c c' hi hc hc').map
    (f := fun c => if c.MayDo .flush then (c.sendOn pace).2 else c) fun c => by
      have hidle : ¬ c.bare.MayDo .flush := fun hmay => nomatch hmay.2.2
      rw [if_neg hidle]
      split
      · exact c.bare_sendOn pace
      · rfl
  rw [hhappenings] at hf ⊢
  rw [hhappenings'] at hf' ⊢
  refine h.of_within hf hf' h.told List.suffix_rfl List.suffix_rfl h.sizing_eq h.acceptor_eq
    (within_move h.follows hm) (within_move h.follows' hm) fun e e' _ he he' => ?_
  rw [hself] at he
  rw [hself'] at he'
  cases he
  cases he'
  exact hdone

/-- A connection that may not do something in either server does not do it. -/
theorem idle {progress : Progress} (h : Twins x p past past' s s')
    (hidle : ∀ c, s.hub.connection? i = some c → ¬ c.MayDo progress)
    (hidle' : ∀ c, s'.hub.connection? i = some c → ¬ c.MayDo progress) (pace : Pace) :
    Twins x p ((s.happenings (.progress i progress pace)).reverse ++ past)
      ((s'.happenings (.progress i progress pace)).reverse ++ past')
      (s.move (.progress i progress pace)) (s'.move (.progress i progress pace)) := by
  obtain ⟨hmove, hhappenings⟩ := move_progress_of_not hidle pace
  obtain ⟨hmove', hhappenings'⟩ := move_progress_of_not hidle' pace
  rw [hmove, hmove', hhappenings, hhappenings']
  exact h

/-- **A connection other than `x` does something by itself**, or may not do that. -/
theorem progress {progress : Progress} {pace : Pace} (h : Twins x p past past' s s') (hi : i ≠ x)
    (hadmits : .rejected i ∉ s.happenings (.progress i progress pace))
    (hadmits' : .rejected i ∉ s'.happenings (.progress i progress pace))
    (hbatch : ∀ c, s.hub.connection? i = some c → [] ∉ c.sender.batch)
    (hbatch' : ∀ c, s'.hub.connection? i = some c → [] ∉ c.sender.batch)
    (hflush : progress = .flush → pace.Takes ∨ Apart x i past ∧ Apart x i past') :
    Twins x p ((s.happenings (.progress i progress pace)).reverse ++ past)
      ((s'.happenings (.progress i progress pace)).reverse ++ past')
      (s.move (.progress i progress pace)) (s'.move (.progress i progress pace)) := by
  cases hc : s.hub.connection? i with
  | none =>
    have hc' := h.connection?_eq_none_iff.mpr hc
    exact h.idle (by simp [hc]) (by simp [hc']) pace
  | some c =>
    obtain ⟨c', hc'⟩ := h.exists_connection? hc
    have htwin := h.twin i c c' hi hc hc'
    by_cases htakes : progress = .flush ∧ pace.Takes
    · obtain ⟨rfl, htakes⟩ := htakes
      exact h.flush hi htakes hbatch hbatch' hc hc'
    -- what is due to be done is the same in both
    obtain ⟨hmay, hend⟩ : (c'.MayDo progress ↔ c.MayDo progress) ∧
        (c'.advanced p pace progress).2 = (c.advanced p pace progress).2 := by
      by_cases hprogress : progress = .flush
      · obtain ⟨hapart, hapart'⟩ :=
          (hflush hprogress).resolve_left fun h => htakes ⟨hprogress, h⟩
        rw [htwin.eq_of_apart hapart hapart']
        exact ⟨Iff.rfl, rfl⟩
      · refine ⟨?_, htwin.end_eq p pace hprogress⟩
        rw [← Connection.mayDo_bare hprogress, htwin.bare_eq, Connection.mayDo_bare hprogress]
    by_cases hdoes : c.MayDo progress
    · have hdoes' := hmay.mpr hdoes
      rw [happenings_progress h.follows hc hdoes, List.mem_append, not_or] at hadmits
      rw [happenings_progress h.follows' hc' hdoes', List.mem_append, not_or] at hadmits'
      refine h.advance hi hc hc' hdoes hdoes' ?_ hend
      exact Hub.happenings_eq (h.follows'.policy_eq.trans h.follows.policy_eq.symm) htwin.bare_eq
        hadmits.1 hadmits'.1
    · refine h.idle (fun d hd => ?_) (fun d hd => ?_) pace
      · rwa [← Option.some.inj (hc.symm.trans hd)]
      · rw [← Option.some.inj (hc'.symm.trans hd), hmay]
        exact hdoes

/-- Whoever is registered in one of the servers is registered in the other. -/
theorem told_askedAll (h : Twins x p past past' s s') :
    SameTold x ((s.lobby.registry.ids.map .asked).reverse ++ past)
      ((s'.lobby.registry.ids.map .asked).reverse ++ past') := by
  rw [← List.map_reverse, ← List.map_reverse]
  refine h.told.asked fun k hk => ?_
  rw [List.mem_reverse, List.mem_reverse, lobby, lobby, h.follows'.mem_registry_iff,
    h.follows.mem_registry_iff, h.told.mem_iff k _ hk rfl, h.told.mem_iff k _ hk rfl]

/-- **What others do**, and what is done to all of them, is done in both servers. -/
theorem move (h : Twins x p past past' s s') (hm : m.subject? ≠ some x)
    (hadmits : ∀ i, .rejected i ∉ s.happenings m)
    (hadmits' : ∀ i, .rejected i ∉ s'.happenings m)
    (hbatch : ∀ k c, s.hub.connection? k = some c → [] ∉ c.sender.batch)
    (hbatch' : ∀ k c, s'.hub.connection? k = some c → [] ∉ c.sender.batch)
    (hflush : ∀ k pace, m = .progress k .flush pace →
      pace.Takes ∨ Apart x k past ∧ Apart x k past') :
    Twins x p ((s.happenings m).reverse ++ past) ((s'.happenings m).reverse ++ past') (s.move m)
      (s'.move m) := by
  have hf := follows_move h.follows m
  have hf' := follows_move h.follows' m
  -- -- what one client does is done to the same connection, and what concerns all is asked of the
  -- same
  cases m with
  | connect peer => exact h.connect peer
  | peerSends i data =>
    have hi : i ≠ x := fun hi => hm (congrArg some hi)
    exact h.modify hi hf hf' fun c => c.bare_peerSends data
  | peerEnds i how =>
    have hi : i ≠ x := fun hi => hm (congrArg some hi)
    exact h.modify hi hf hf' fun c => c.bare_peerEnds how
  | disconnect i =>
    have hhappenings : s'.happenings (.disconnect i) = s.happenings (.disconnect i) := by
      rw [happenings, happenings]
      simp only [Option.isSome_iff_ne_none, ne_eq, h.connection?_eq_none_iff]
    refine h.of_within hf hf' ?_ (List.suffix_append ..) (List.suffix_append ..) h.sizing_eq
      h.acceptor_eq (Hub.within_act ..) (Hub.within_act ..) fun _ _ hx => absurd rfl hx
    rw [hhappenings]
    refine h.told.append _ fun e he => ?_
    rwa [subject?_of_mem_happenings rfl (List.mem_reverse.mp he)]
  | disconnectAll =>
    exact h.of_within hf hf' h.told_askedAll (List.suffix_append ..) (List.suffix_append ..)
      h.sizing_eq h.acceptor_eq (Hub.within_act ..) (Hub.within_act ..) fun _ _ hx => absurd rfl hx
  | shutdown =>
    exact h.of_within hf hf' h.told_askedAll (List.suffix_append ..) (List.suffix_append ..)
      h.sizing_eq (congrArg AcceptorState.stop h.acceptor_eq) (Hub.within_act ..)
      (Hub.within_act ..) fun _ _ hx => absurd rfl hx
  | progress i progress pace =>
    have hi : i ≠ x := fun hi => hm (congrArg some hi)
    refine h.progress hi (hadmits i) (hadmits' i) (hbatch i) (hbatch' i) ?_
    rintro rfl
    exact hflush i pace rfl

end Twins

/-! ## Two runs

Runs that differ in the moves of `x` are matched from their ends, since the history of a server
grows at its end.  Everything that is asked of the runs holds of their prefixes. -/

/-- The moves that are not made by connection `x` or to it alone. -/
def Move.others (x : ConnectionId) (moves : List Move) : List Move :=
  moves.filter fun m => m.subject? ≠ some x

/-- `Matched x moves moves'`: the moves are the same but for those of `x`, one after the other. -/
inductive Move.Matched (x : ConnectionId) : List Move → List Move → Prop
  | nil : Matched x [] []
  | left {moves moves' m} : m.subject? = some x → Matched x moves moves' →
      Matched x (moves ++ [m]) moves'
  | right {moves moves' m} : m.subject? = some x → Matched x moves moves' →
      Matched x moves (moves' ++ [m])
  | both {moves moves' m} : m.subject? ≠ some x → Matched x moves moves' →
      Matched x (moves ++ [m]) (moves' ++ [m])

namespace Move

variable {x : ConnectionId} {moves moves' : List Move} {m : Move}

theorem others_concat (h : m.subject? ≠ some x) :
    others x (moves ++ [m]) = others x moves ++ [m] := by
  simp [others, h]

theorem others_concat_of_subject (h : m.subject? = some x) :
    others x (moves ++ [m]) = others x moves := by
  simp [others, h]

/-- Runs with the same moves of others can be matched. -/
theorem matched_of_others (h : others x moves = others x moves') : Matched x moves moves' := by
  -- by the last move of each, where a move of `x` is taken off first
  induction moves using List.reverseRecOn generalizing moves' with
  | nil =>
    -- only `x` moves
    induction moves' using List.reverseRecOn with
    | nil => exact .nil
    | append_singleton moves' m' ih =>
      by_cases hm' : m'.subject? = some x
      · rw [others_concat_of_subject hm'] at h
        exact .right hm' (ih h)
      · rw [others_concat hm'] at h
        simp [others] at h
  | append_singleton moves m ih =>
    by_cases hm : m.subject? = some x
    · rw [others_concat_of_subject hm] at h
      exact .left hm (ih h)
    · induction moves' using List.reverseRecOn with
      | nil =>
        rw [others_concat hm] at h
        simp [others] at h
      | append_singleton moves' m' ih' =>
        by_cases hm' : m'.subject? = some x
        · rw [others_concat_of_subject hm'] at h
          exact .right hm' (ih' h)
        · rw [others_concat hm, others_concat hm'] at h
          obtain ⟨hbefore, hlast⟩ := List.append_inj' h rfl
          cases hlast
          exact .both hm (ih hbefore)

end Move

/-- `DifferIn x s moves moves'`: two runs of a server differ in nothing but what `x` does. -/
structure DifferIn (x : ConnectionId) (s : Server) (moves moves' : List Move) : Prop where
  /-- Whatever is not done by `x` or to it alone, is done in both. -/
  others_eq : Move.others x moves = Move.others x moves'
  /-- The lobby is never full. -/
  admits : ∀ i, .rejected i ∉ s.history moves
  admits' : ∀ i, .rejected i ∉ s.history moves'
  /-- Sockets of those who met `x` do not fail to take anything of what they are offered. -/
  takes : ∀ k pace, k ≠ x → .progress k .flush pace ∈ moves →
    pace.Takes ∨ Apart x k (s.history moves) ∧ Apart x k (s.history moves')

section Runs

variable {x : ConnectionId} {s : Server} {moves moves' before before' : List Move}

/-- Prefixes of runs that differ in what `x` does differ in nothing else. -/
theorem DifferIn.of_prefix (h : DifferIn x s moves moves') (hbefore : before <+: moves)
    (hbefore' : before' <+: moves') (hothers : Move.others x before = Move.others x before') :
    DifferIn x s before before' where
  others_eq := hothers
  admits i hmem := h.admits i ((s.history_suffix hbefore).subset hmem)
  admits' i hmem := h.admits' i ((s.history_suffix hbefore').subset hmem)
  takes k pace hk hmem := (h.takes k pace hk (hbefore.subset hmem)).imp id fun hapart =>
    ⟨hapart.1.of_suffix (s.history_suffix hbefore), hapart.2.of_suffix (s.history_suffix hbefore')⟩

variable {address : SocketAddress} {sizing : ReceiveSizing} {capacity : Nat} {p : FramePolicy}

/-- **After two runs that differ in what `x` does, the servers are twins.** -/
theorem DifferIn.twins (h : DifferIn x (opened address sizing capacity p) moves moves') :
    Twins x p ((opened address sizing capacity p).history moves)
      ((opened address sizing capacity p).history moves')
      ((opened address sizing capacity p).run moves)
      ((opened address sizing capacity p).run moves') := by
  -- a prefix of runs that are so different is so itself, which the induction needs of it
  have hmatched := Move.matched_of_others h.others_eq
  induction hmatched with
  | nil => exact .opened x p address sizing capacity
  | left hm hmatched ih =>
    rw [run_concat, history_concat]
    refine (ih (h.of_prefix (List.prefix_append ..) List.prefix_rfl ?_)).move_left hm
    exact (Move.others_concat_of_subject hm).symm.trans h.others_eq
  | right hm hmatched ih =>
    rw [run_concat, history_concat]
    refine ((ih (h.of_prefix List.prefix_rfl (List.prefix_append ..) ?_)).symm.move_left hm).symm
    exact h.others_eq.trans (Move.others_concat_of_subject hm)
  | @both moves moves' m hm hmatched ih =>
    have hothers := h.others_eq
    rw [Move.others_concat hm, Move.others_concat hm, List.append_left_inj] at hothers
    have hadmits := h.admits
    have hadmits' := h.admits'
    simp only [history_concat, List.mem_append, List.mem_reverse, not_or] at hadmits hadmits'
    rw [run_concat, run_concat, history_concat, history_concat]
    refine (ih (h.of_prefix (List.prefix_append ..) (List.prefix_append ..) hothers)).move hm
      (fun i => (hadmits i).1) (fun i => (hadmits' i).1) (fun _ _ => nil_notMem_batch)
      (fun _ _ => nil_notMem_batch) ?_
    rintro k pace rfl
    have hk : k ≠ x := fun hk => hm (congrArg some hk)
    refine (h.takes k pace hk List.mem_concat_self).imp id fun hapart => ⟨?_, ?_⟩
    · exact hapart.1.of_suffix (history_suffix _ (List.prefix_append ..))
    · exact hapart.2.of_suffix (history_suffix _ (List.prefix_append ..))

end Runs

/-- **Rooms are isolated.**  Two runs of a lobby that is never full may differ in what client `x`
sends, whatever that is, in when its connection receives it, and in how it ends.  The sockets of
those who met `x` take something of whatever they are offered, as sockets do.  Then every other
client that was never in one room with `x` finds the same connection in both at every step: the same
session, phase and reason for its end, and the same bytes received and to be sent.  Its room has as
many members in both.  The send buffer, which all connections share, makes no difference either, in
whatever state it was left. -/
theorem rooms_isolated (address : SocketAddress) (sizing : ReceiveSizing) (capacity : Nat)
    (p : FramePolicy) (x : ConnectionId) (moves moves' : List Move)
    (h : DifferIn x (opened address sizing capacity p) moves moves') :
    let server := fun moves => (opened address sizing capacity p).run moves
    let past := fun moves => (opened address sizing capacity p).history moves
    (∀ before before', before <+: moves → before' <+: moves' →
      Move.others x before = Move.others x before' →
      ∀ j, j ≠ x → Apart x j (past before) → Apart x j (past before') →
        (server before').hub.connection? j = (server before).hub.connection? j ∧
        ∀ c room, (server before).hub.connection? j = some c → c.session.room = some room →
          (server before').lobby.roomMembers room = (server before).lobby.roomMembers room) ∧
    ∀ (packet : ServerPacket) (buffer : SendBuffer) (spill : Bytes),
      packet.writtenIn buffer spill p = packet.encode p := by
  refine ⟨?_, fun packet buffer spill => Packet.written_eq_encodeFrame buffer spill p ..⟩
  intro before before' hbefore hbefore' hothers j hj hapart hapart'
  have htwins := (h.of_prefix hbefore hbefore' hothers).twins
  refine ⟨?_, fun c room hc hroom => ?_⟩
  · cases hc : ((opened address sizing capacity p).run before).hub.connection? j with
    | none => exact htwins.connection?_eq_none_iff.mpr hc
    | some c =>
      obtain ⟨c', hc'⟩ := htwins.exists_connection? hc
      rw [hc', (htwins.twin j c c' hj hc hc').eq_of_apart hapart hapart']
  · -- `x` is in another room, or in none
    rw [htwins.follows.room_eq hc] at hroom
    have hcount := htwins.told.population_eq (hapart.not_together room hroom)
      (hapart'.not_together room ((htwins.told.roomOf_eq hj).trans hroom))
    exact (htwins.follows'.roomMembers_eq room).trans
      (hcount.trans (htwins.follows.roomMembers_eq room).symm)

/-- Two clients connect, and the second one enters a room.  The first one sends something, which is
received before and after that. -/
def intrusion (first second : Bytes) : List Move :=
  [.connect ⟨.v4 ⟨127, 0, 0, 1⟩, 1⟩, .connect ⟨.v4 ⟨127, 0, 0, 1⟩, 2⟩,
    .progress ⟨0⟩ .greet {}, .progress ⟨1⟩ .greet {},
    .peerSends ⟨0⟩ first, .progress ⟨0⟩ .receive {},
    .peerSends ⟨1⟩ [11, 0, 1, 0, 3, 100, 101, 110, 2, 99, 100], .progress ⟨1⟩ .receive {},
    .peerSends ⟨0⟩ second, .progress ⟨0⟩ .receive {}] ++ flushing ⟨1⟩

/-- The first client enters another room and then sends the length of a frame that is too large, for
which it is dismissed; or it is silent. -/
theorem rooms_isolated_intrusion :
    let hello : Bytes := [10, 0, 1, 0, 3, 112, 105, 116, 1, 120]
    let lobby := opened ⟨.v4 ⟨127, 0, 0, 1⟩, 0⟩ ⟨64, 16⟩ 2 { maxFrame := 42 }
    DifferIn ⟨0⟩ lobby (intrusion hello [255, 255]) (intrusion [] []) ∧
      .dismissed ⟨0⟩ ∈ lobby.history (intrusion hello [255, 255]) ∧
      (lobby.run (intrusion [] [])).hub.connection? ⟨1⟩ =
        (lobby.run (intrusion hello [255, 255])).hub.connection? ⟨1⟩ := by
  intro hello lobby
  have hpast : lobby.history (intrusion hello [255, 255]) =
      [.dismissed ⟨0⟩, .handled ⟨1⟩ (.enter "den" "cd"), .handled ⟨0⟩ (.enter "pit" "x"),
        .admitted ⟨1⟩, .admitted ⟨0⟩, .arrived, .arrived] := by decide +kernel
  have hpast' : lobby.history (intrusion [] []) =
      [.handled ⟨1⟩ (.enter "den" "cd"), .admitted ⟨1⟩, .admitted ⟨0⟩, .arrived, .arrived] := by
    decide +kernel
  have hdiffer : DifferIn ⟨0⟩ lobby (intrusion hello [255, 255]) (intrusion [] []) := by
    refine ⟨rfl, ?_, ?_, fun k pace hk hmem => .inl ?_⟩
    · simp [hpast]
    · simp [hpast']
    · obtain ⟨rfl, rfl⟩ : k = ⟨1⟩ ∧ pace = {} := by simpa [intrusion, flushing] using hmem
      exact fun n hn => hn
  have hisolated := rooms_isolated ⟨.v4 ⟨127, 0, 0, 1⟩, 0⟩ ⟨64, 16⟩ 2 { maxFrame := 42 } ⟨0⟩
    (intrusion hello [255, 255]) (intrusion [] []) hdiffer
  have hapart : Apart ⟨0⟩ ⟨1⟩ (lobby.history (intrusion hello [255, 255])) := by
    rw [hpast]
    decide +kernel
  have hapart' : Apart ⟨0⟩ ⟨1⟩ (lobby.history (intrusion [] [])) := by
    rw [hpast']
    decide +kernel
  refine ⟨hdiffer, by rw [hpast]; exact List.mem_cons_self, ?_⟩
  exact (hisolated.1 _ _ List.prefix_rfl List.prefix_rfl rfl ⟨1⟩ (by decide) hapart hapart').1

end Server

end ChatLobby
