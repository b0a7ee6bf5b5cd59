import ChatLobby.Proofs.Handling
import ChatLobby.Proofs.ServerRuns
import ChatLobby.Proofs.Tracking

/-!
# A hub keeps to its history

`Hub.Follows p past h` says that the hub `h` is what the history `past` makes of it: so is every
connection, and the rooms and the registry list whom they should.  Each thing that may happen in the
hub carries this on to the history that it belongs to.

A hub is followed through one callback at a time.  The lemmas below have the same form: the hub
follows the past, the lobby is called, and the hub that comes of it follows the past with one more
thing in front.  So a receipt of several frames is several such steps, and a move is a few of them.

* `Follows.receiveAll`: frames that come together are handled up to the first that cannot be.
* `Follows.advance`: whatever a connection does by itself, the hub keeps to its history.
-/

namespace ChatLobby

open History

/-- `h.Follows p past`: the hub is what the history makes of it. -/
structure Hub.Follows (p : FramePolicy) (past : History) (h : Hub Lobby Session) : Prop where
  possible : Possible p past
  policy_eq : h.shared.policy = p
  length_eq : h.connections.length = past.arrivals
  tracks : ∀ i c, h.connection? i = some c → c.Tracks p past i
  rooms : h.shared.rooms.Holds fun j => roomOf j past
  nodup_registry : h.shared.registry.ids.Nodup
  mem_registry_iff : ∀ i, i ∈ h.shared.registry.ids ↔ .admitted i ∈ past ∧ .dismissed i ∉ past

/-- The connection after its end, if there is a reason to end. -/
def Connection.concluded (c : Connection Session) : Option DisconnectReason → Connection Session
  | none => c
  | some outcome => c.dismissed (c.reasonFor outcome)

namespace Hub

variable {p : FramePolicy} {past : History} {e : Happening} {h h' : Hub Lobby Session}
  {i j : ConnectionId} {c : Connection Session}

theorem Follows.index_lt (hf : h.Follows p past) (hc : h.connection? i = some c) :
    i.index < past.arrivals := by
  rw [← hf.length_eq]
  exact (List.getElem?_eq_some_iff.mp hc).1

theorem exists_connection? (hlt : i.index < h.connections.length) :
    ∃ c, h.connection? i = some c :=
  ⟨_, List.getElem?_eq_getElem hlt⟩

/-- In the beginning nothing has happened, and nobody is there. -/
theorem Follows.nil (capacity : Nat) (p : FramePolicy) :
    ({ shared := .ofCapacity capacity p } : Hub Lobby Session).Follows p [] where
  possible := .nil
  policy_eq := rfl
  length_eq := rfl
  tracks i c hc := by simp [connection?] at hc
  rooms := .empty
  nodup_registry := List.nodup_nil
  mem_registry_iff i := by simp [Lobby.ofCapacity]

/-- One more thing happens, which makes no connection. -/
theorem Follows.cons (hf : h.Follows p past) (hallows : past.Allows p e) (he : e ≠ .arrived)
    (hlength : h'.connections.length = h.connections.length)
    (hpolicy : h'.shared.policy = h.shared.policy)
    (htracks : ∀ j c, h.connection? j = some c →
      ∃ c', h'.connection? j = some c' ∧ c'.Tracks p (e :: past) j)
    (hrooms : h'.shared.rooms.Holds fun j => roomOf j (e :: past))
    (hnodup : h'.shared.registry.ids.Nodup)
    (hregistry : ∀ i, i ∈ h'.shared.registry.ids ↔
      .admitted i ∈ e :: past ∧ .dismissed i ∉ e :: past) : h'.Follows p (e :: past) where
  possible := hf.possible.cons hallows
  policy_eq := hpolicy.trans hf.policy_eq
  length_eq := by rw [hlength, hf.length_eq, arrivals_cons_of_ne he]
  tracks j d hd := by
    have hlt := (List.getElem?_eq_some_iff.mp hd).1
    rw [hlength] at hlt
    obtain ⟨c, hc⟩ := exists_connection? hlt
    obtain ⟨c', hc', htracked⟩ := htracks j c hc
    rw [hd] at hc'
    cases hc'
    exact htracked
  rooms := hrooms
  nodup_registry := hnodup
  mem_registry_iff := hregistry

/-- What no history speaks about may change. -/
theorem Follows.modify (hf : h.Follows p past) {f : Connection Session → Connection Session}
    (hsame : ∀ c, h.connection? i = some c → c.Alike (f c)) : (h.modify i f).Follows p past where
  possible := hf.possible
  policy_eq := hf.policy_eq
  length_eq := (length_modify f).trans hf.length_eq
  tracks j d hd := by
    have hlt := (List.getElem?_eq_some_iff.mp hd).1
    rw [length_modify] at hlt
    obtain ⟨c, hc⟩ := exists_connection? hlt
    by_cases hj : j = i
    · subst hj
      rw [connection?_modify_self f hc] at hd
      cases hd
      exact (hf.tracks j c hc).alike (hsame c hc)
    · rw [connection?_modify_of_ne f hj] at hd
      exact hf.tracks j d hd
  rooms := hf.rooms
  nodup_registry := hf.nodup_registry
  mem_registry_iff := hf.mem_registry_iff

theorem length_inform (h : Hub Lobby Session) (due : ConnectionId → List ServerPacket) :
    (h.inform due).connections.length = h.connections.length :=
  List.length_mapIdx

/-- **A packet is handled.** -/
theorem Follows.handled {packet : ClientPacket} (hf : h.Follows p past)
    (hc : h.connection? i = some c) (hallows : past.Allows p (.handled i packet)) :
    ∃ h', h.call i (Lobby.handle i packet) = (some (.ok ()), h') ∧
      h'.Follows p (.handled i packet :: past) := by
  have hsession := (hf.tracks i c hc).session_eq
  obtain ⟨rooms, hcall, hd⟩ := call_handle hc hsession hf.policy_eq hf.possible hallows hf.rooms
  refine ⟨_, hcall, hf.cons hallows (by rintro ⟨⟩) ?_ rfl ?_ hd hf.nodup_registry ?_⟩
  · rw [length_inform]
    exact length_modify _
  · intro j d hj
    have hlt := hf.index_lt hj
    have htracks := hf.tracks j d hj
    by_cases hji : j = i
    · subst hji
      rw [hc] at hj
      cases hj
      -- the session is new, and there may be something to be told
      have hput : ((h.setSession j (c.session.after packet)).withRooms rooms).connection? j =
          some { c with session := c.session.after packet } := connection?_modify_self _ hc
      refine ⟨_, connection?_inform hput _, ?_⟩
      rw [hsession, ← sessionOf_handled]
      show Connection.Tracks _ _ _ (Connection.sendAll _ (ServerPacket.frames h.shared.policy _))
      rw [hf.policy_eq]
      exact htracks.cons hlt (by rintro ⟨⟩) (by rintro ⟨⟩) (by rintro ⟨⟩) (by rintro ⟨⟩)
    · have hkept : ((h.setSession i (c.session.after packet)).withRooms rooms).connection? j =
          some d := (connection?_modify_of_ne _ hji).trans hj
      refine ⟨_, connection?_inform hkept _, ?_⟩
      show Connection.Tracks _ _ _ (Connection.sendAll _ (ServerPacket.frames h.shared.policy _))
      rw [hf.policy_eq]
      exact htracks.cons_of_ne hlt (Happening.subject?_ne rfl hji)
  · intro j
    show j ∈ h.shared.registry.ids ↔ _
    rw [hf.mem_registry_iff]
    simp

/-! ### Frames that come together

A read may bring several frames, and the lobby is called once for each.  What it makes of the second
depends on the session that the first has left, so the induction is over the frames with the hub,
the session and the past all going on. -/

/-- **Frames are received**: packets are handled up to the first that cannot be. -/
theorem Follows.receiveAll (hf : h.Follows p past) (hc : h.connection? i = some c)
    (hadmitted : .admitted i ∈ past) (hconnected : past.IsConnected i) (frames : List Frame) :
    ∃ h', h.call i (frames.forM (Lobby.receive i)).run =
        (some (Lobby.replyAll p c.session frames), h') ∧
      h'.Follows p (((Lobby.packetsOf p c.session frames).map (.handled i)).reverse ++ past) := by
  induction frames generalizing h past c with
  | nil => exact ⟨h, call_pure hc _, hf⟩
  | cons f frames ih =>
    cases hread : ClientPacket.ofFrame f with
    | error cause =>
      have hreceive := call_receive_of_error hc hread
      -- nothing behind such a frame is looked at
      simp only [Lobby.packetsOf, Lobby.replyAll, hread]
      exact ⟨h, (call_bind_of_some hreceive _).trans (call_pure hc _), hf⟩
    | ok packet =>
      have haccepts := Lobby.accepts_eq p c.session packet
      cases hreply : Lobby.reply p c.session packet with
      | ok _ =>
        rw [hreply] at haccepts
        have hallows : past.Allows p (.handled i packet) := by
          refine ⟨hadmitted, hconnected, ClientPacket.valid_of_ofFrame hread, ?_⟩
          rw [← (hf.tracks i c hc).session_eq]
          exact haccepts
        obtain ⟨h₁, hhandle, hf₁⟩ := hf.handled hc hallows
        obtain ⟨c₁, hc₁⟩ := exists_connection?_of_call hc hhandle
        have hsession : c₁.session = c.session.after packet := by
          rw [(hf₁.tracks i c₁ hc₁).session_eq, sessionOf_handled, (hf.tracks i c hc).session_eq]
        have hreceive : h.call i (Lobby.receive i f).run = (some (.ok ()), h₁) :=
          call_receive_of_ok hc hread hhandle
        have hstill : IsConnected i (.handled i packet :: past) := by
          rw [isConnected_cons_iff (hf.index_lt hc)]
          simp [hconnected]
        -- the other frames find the session that this one left
        obtain ⟨h', hrest, hf'⟩ := ih hf₁ hc₁ (List.mem_cons_of_mem _ hadmitted) hstill
        rw [hsession] at hrest hf'
        simp only [Lobby.packetsOf, Lobby.replyAll, hread, hreply, haccepts, Except.toBool, if_pos,
          List.map_cons, List.reverse_cons, List.append_assoc]
        exact ⟨h', (call_bind_of_some hreceive _).trans hrest, hf'⟩
      | error cause =>
        rw [hreply] at haccepts
        have hrefused : Lobby.reply h.shared.policy c.session packet = .error cause := by
          rw [hf.policy_eq, hreply]
        have hreceive : h.call i (Lobby.receive i f).run =
            (some (.error (Lobby.refusal cause)), h) :=
          call_receive_of_ok hc hread (call_handle_of_refused hc hrefused)
        simp only [Lobby.packetsOf, Lobby.replyAll, hread, hreply, haccepts, Except.toBool,
          Bool.false_eq_true, if_false]
        exact ⟨h, (call_bind_of_some hreceive _).trans (call_pure hc _), hf⟩

/-- Bytes are received as their frames are, and answered as the decoder and the lobby say together.
-/
theorem Follows.onReceived (hf : h.Follows p past) (hc : h.connection? i = some c)
    (hadmitted : .admitted i ∈ past) (hconnected : past.IsConnected i) (data : Bytes) :
    ∃ h', h.call i ((Lobby.handler p).onReceived i data) =
        (some (Lobby.receipt p c.session data), h') ∧
      h'.Follows p (((Lobby.packetsOf p c.session ((Decoder.ofPolicy p).scan data).frames).map
        (.handled i)).reverse ++ past) := by
  obtain ⟨h', hcall, hf'⟩ :=
    hf.receiveAll hc hadmitted hconnected ((Decoder.ofPolicy p).scan data).frames
  obtain ⟨c', hc'⟩ := exists_connection?_of_call hc hcall
  refine ⟨h', (call_bind_of_some hcall _).trans ?_, hf'⟩
  rw [Lobby.receipt]
  cases Lobby.replyAll p c.session ((Decoder.ofPolicy p).scan data).frames with
  | error cause => exact call_pure hc' _
  | ok _ =>
    -- what is left is to look at the length that comes next
    show _ = (some ((Decoder.ofPolicy p).result data), h')
    rw [Decoder.result]
    cases hfault : ((Decoder.ofPolicy p).scan data).fault with
    | none => exact call_pure hc' _
    | some cause => exact call_pure hc' _

/-! ### The beginning and the end

A connection begins with its admission or its rejection, and ends with its dismissal.  These are the
things that change the registry. -/

/-- The end is three things in a row: the connection is shut, its handler is told, and it is over.
-/
theorem teardown_eq (handler : Handler Lobby Session) (outcome : DisconnectReason)
    (hc : h.connection? i = some c) :
    h.teardown handler i outcome =
      ((h.modify i Connection.shut).call i
        (handler.onDisconnected i (c.reasonFor outcome))).2.modify i
          (Connection.finish (c.reasonFor outcome)) := by
  rw [teardown, hc]
  rfl

/-- **A connection ends.** -/
theorem Follows.teardown (hf : h.Follows p past) (hc : h.connection? i = some c)
    (hallows : past.Allows p (.dismissed i)) (outcome : DisconnectReason) :
    (h.teardown (Lobby.handler p) i outcome).Follows p (.dismissed i :: past) ∧
      (h.teardown (Lobby.handler p) i outcome).connection? i =
        some (c.dismissed (c.reasonFor outcome)) := by
  have hshut := connection?_modify_self Connection.shut hc
  obtain ⟨hsession, -, -, hclosed⟩ := c.shut_spec
  have hcall := call_dismiss hshut (hsession.trans (hf.tracks i c hc).session_eq) hf.possible
    hf.rooms
  rw [hsession] at hcall
  obtain ⟨rooms, hcall, hd⟩ := hcall
  have hcall' : (h.modify i Connection.shut).call i
      ((Lobby.handler p).onDisconnected i (c.reasonFor outcome)) = _ := hcall
  rw [teardown_eq _ _ hc, hcall']
  have hself : ((((((h.modify i Connection.shut).setSession i
      { c.session with room := none }).withRooms rooms).withRegistry
        (h.shared.registry.remove i)).inform (onLeaving i past)).modify i
          (Connection.finish (c.reasonFor outcome))).connection? i =
        some (c.dismissed (c.reasonFor outcome)) := by
    have hput : ((h.modify i Connection.shut).setSession i
        { c.session with room := none }).connection? i =
          some (c.shut.withSession { c.session with room := none }) :=
      connection?_modify_self _ hshut
    have htold := connection?_inform (h := (((h.modify i Connection.shut).setSession i
      { c.session with room := none }).withRooms rooms).withRegistry
        (h.shared.registry.remove i)) hput (onLeaving i past)
    -- its end was claimed before it is told anything
    have hover : (c.shut.withSession { c.session with room := none }).phase ≠ .connected := hclosed
    rw [Connection.sendAll_of_ne hover] at htold
    exact connection?_modify_self _ htold
  refine ⟨hf.cons hallows (by rintro ⟨⟩) ?_ rfl ?_ hd ?_ ?_, hself⟩
  · rw [length_modify, length_inform]
    exact (length_modify _).trans (length_modify _)
  · -- what the others are told of the end is what is due to them
    intro j d hj
    by_cases hji : j = i
    · subst hji
      exact ⟨_, hself, (hf.tracks j c hc).dismissed _⟩
    · have hkept : (((h.modify i Connection.shut).setSession i
          { c.session with room := none }).withRooms rooms).connection? j = some d :=
        (connection?_modify_of_ne _ hji).trans ((connection?_modify_of_ne _ hji).trans hj)
      have htold := connection?_inform (h := (((h.modify i Connection.shut).setSession i
        { c.session with room := none }).withRooms rooms).withRegistry
          (h.shared.registry.remove i)) hkept (onLeaving i past)
      refine ⟨_, (connection?_modify_of_ne _ hji).trans htold, ?_⟩
      show Connection.Tracks _ _ _ (Connection.sendAll _ (ServerPacket.frames h.shared.policy _))
      rw [hf.policy_eq]
      exact (hf.tracks j d hj).cons_of_ne (hf.index_lt hj) (Happening.subject?_ne rfl hji)
  · exact hf.nodup_registry.filter _
  · intro j
    show j ∈ h.shared.registry.ids.filter (· ≠ i) ↔ _
    rw [List.mem_filter, hf.mem_registry_iff]
    by_cases hji : j = i
    · simp [hji]
    · simp [hji]

theorem act_close (h : Hub Lobby Session) (i : ConnectionId) :
    (h.act (Action.close i)).2 = h.modify i fun c => c.disconnect.2 := by
  have hconnections : ((Action.close i).run h.connections).2 =
      h.connections.modify i.index fun c => c.disconnect.2 := by
    rw [Action.close, Action.run]
    refine List.ext_getElem? fun k => ?_
    rw [List.getElem?_modify]
    cases hc : h.connections[i.index]? with
    | none =>
      show h.connections[k]? = _
      by_cases hk : i.index = k
      · rw [← hk, hc]
        rfl
      · simp [hk]
    | some c =>
      show (h.connections.set i.index c.disconnect.2)[k]? = _
      rw [List.getElem?_set]
      obtain ⟨hlt, -⟩ := List.getElem?_eq_some_iff.mp hc
      by_cases hk : i.index = k
      · rw [if_pos hk, if_pos hlt, ← hk, hc]
        simp
      · simp [hk]
  exact congrArg (fun connections => ({ h with connections } : Hub Lobby Session)) hconnections

/-- Something happens to one connection only, of which nobody is told. -/
theorem Follows.cons_modify (hf : h.Follows p past) (hc : h.connection? i = some c)
    (hallows : past.Allows p e) (hsubject : e.subject? = some i) (hdue : ∀ j, due j e past = [])
    {f : Connection Session → Connection Session} (htracks : (f c).Tracks p (e :: past) i)
    {registry : Registry} (hnodup : registry.ids.Nodup)
    (hregistry : ∀ i, i ∈ registry.ids ↔ .admitted i ∈ e :: past ∧ .dismissed i ∉ e :: past)
    (hrooms : ∀ j, roomOf j (e :: past) = roomOf j past) :
    ((h.modify i f).withRegistry registry).Follows p (e :: past) := by
  refine hf.cons hallows ?_ (length_modify f) rfl ?_ ?_ hnodup hregistry
  · rintro rfl
    cases hsubject
  · intro j d hj
    by_cases hji : j = i
    · subst hji
      rw [hc] at hj
      cases hj
      exact ⟨_, connection?_modify_self f hc, htracks⟩
    · refine ⟨d, (connection?_modify_of_ne f hji).trans hj, ?_⟩
      have hcons := (hf.tracks j d hj).cons_of_ne (hf.index_lt hj)
        (Happening.subject?_ne hsubject hji)
      rw [hdue] at hcons
      exact hcons
  · simp only [hrooms]
    exact hf.rooms

/-- Someone asks for the end of a connection. -/
theorem Follows.asked (hf : h.Follows p past) (hc : h.connection? i = some c) :
    (h.act (Action.close i)).2.Follows p (.asked i :: past) := by
  have hallows : past.Allows p (.asked i) := hf.index_lt hc
  rw [act_close]
  refine hf.cons_modify hc hallows rfl (fun _ => rfl) (hf.tracks i c hc).asked hf.nodup_registry
    (fun j => ?_) fun _ => rfl
  rw [hf.mem_registry_iff]
  simp

/-- What may still be done by a connection, it does before it is dismissed. -/
theorem Follows.not_dismissed (hf : h.Follows p past) (hc : h.connection? i = some c)
    {progress : Progress} (hmay : c.MayDo progress) : .dismissed i ∉ past := by
  rw [← (hf.tracks i c hc).disconnected_iff]
  intro hover
  have halive := hmay.phase_alive
  rw [hover] at halive
  rcases halive with h | h <;> cases h

/-- A connection that is to begin was not admitted or rejected before. -/
theorem Follows.fresh_of_greet (hf : h.Follows p past) (hc : h.connection? i = some c)
    (hmay : c.MayDo .greet) : i.index < past.arrivals ∧ .admitted i ∉ past ∧ .rejected i ∉ past ∧
      .dismissed i ∉ past := by
  have hnot : ¬ (.admitted i ∈ past ∨ .rejected i ∈ past) := by
    rw [← (hf.tracks i c hc).greeted_iff, hmay.2]
    decide
  rw [not_or] at hnot
  exact ⟨hf.index_lt hc, hnot.1, hnot.2, hf.not_dismissed hc hmay⟩

/-- **A connection is admitted.** -/
theorem Follows.admitted {registry : Registry} (hf : h.Follows p past)
    (hc : h.connection? i = some c) (hallows : past.Allows p (.admitted i))
    (hinsert : h.shared.registry.insert i = .ok registry) :
    ((h.modify i fun c => { c with greeted := true }).withRegistry registry).Follows p
      (.admitted i :: past) := by
  have hnew : i ∉ h.shared.registry.ids := fun hmem =>
    hallows.2.1 ((hf.mem_registry_iff i).mp hmem).1
  have hids : registry.ids = h.shared.registry.ids ++ [i] := by
    rw [Registry.insert, if_neg hnew] at hinsert
    split at hinsert
    · cases hinsert
      rfl
    · cases hinsert
  have htracks := (hf.tracks i c hc).admitted hallows.1
  refine hf.cons_modify hc hallows rfl (fun _ => rfl) htracks ?_ (fun j => ?_) fun _ => rfl
  · rw [hids]
    exact (List.perm_append_singleton i _).nodup_iff.mpr
      (List.nodup_cons.mpr ⟨hnew, hf.nodup_registry⟩)
  · rw [hids, List.mem_append, hf.mem_registry_iff, List.mem_singleton]
    by_cases hji : j = i
    · subst hji
      simp [hallows.2.2.2]
    · simp [hji]

/-- **A connection is rejected**: it has begun, and is asked to end at once. -/
theorem Follows.rejected (hf : h.Follows p past) (hc : h.connection? i = some c)
    (hallows : past.Allows p (.rejected i)) :
    ((h.modify i fun c => { c with greeted := true }).act (Action.close i)).2.Follows p
      (.rejected i :: past) := by
  have htwice : (h.modify i fun c => { c with greeted := true }).modify i
      (fun c => c.disconnect.2) =
        h.modify i fun c => ({ c with greeted := true } : Connection Session).disconnect.2 := by
    simp [Hub.modify, List.modify_modify_eq, Function.comp_def]
  rw [act_close, htwice]
  refine hf.cons_modify hc hallows rfl (fun _ => rfl) (hf.tracks i c hc).rejected
    hf.nodup_registry (fun j => ?_) fun _ => rfl
  rw [hf.mem_registry_iff]
  simp

/-- `h.Carries i b h'`: from `h` to `h'`, connection `i` becomes what `b` is, but for its session
and for what it is sent and asked meanwhile. -/
structure Carries (h : Hub Lobby Session) (i : ConnectionId) (b : Connection Session)
    (h' : Hub Lobby Session) : Prop where
  within : h.Within i h'
  touched : ∃ d, h'.connection? i = some d ∧ (b.withSession d.session).Touched d

theorem carries_modify (hc : h.connection? i = some c)
    (f : Connection Session → Connection Session) : h.Carries i (f c) (h.modify i f) where
  within := within_modify h i f
  touched := ⟨f c, connection?_modify_self f hc, .refl (f c)⟩

/-- A callback may send over the connection and ask for its end, but leaves the rest of it. -/
theorem carries_call {α : Type} (hc : h.connection? i = some c)
    (f : Connection Session → Connection Session) (callback : Callback Lobby Session α) :
    h.Carries i (f c) ((h.modify i f).call i callback).2 := by
  obtain ⟨d, hd, hleads⟩ := call_leads callback (connection?_modify_self f hc)
  exact ⟨(within_modify h i f).trans (within_call _ i callback), d, hd, hleads.touched⟩

theorem Carries.withCursor {b : Connection Session} (hcarries : h.Carries i b h')
    (cursor : Cursor) :
    h.Carries i (b.withCursor cursor) (h'.modify i fun c => c.withCursor cursor) := by
  obtain ⟨hwithin, d, hd, htouched⟩ := hcarries
  exact ⟨hwithin.trans (within_modify ..), _, connection?_modify_self _ hd,
    htouched.withCursor cursor⟩

/-- **A connection begins**, and is admitted or rejected. -/
theorem Follows.greet (hf : h.Follows p past) (hc : h.connection? i = some c)
    (hmay : c.MayDo .greet) (pace : Pace) :
    (h.greet (Lobby.handler p) i).Follows p ((h.happenings i c pace .greet).reverse ++ past) ∧
      h.Carries i { c with greeted := true } (h.greet (Lobby.handler p) i) := by
  have hallows := hf.fresh_of_greet hc hmay
  have hgreeted := connection?_modify_self
    (fun c : Connection Session => { c with greeted := true }) hc
  have hcarries := carries_call hc (fun c => { c with greeted := true })
    ((Lobby.handler p).onConnected i)
  rw [Hub.greet, happenings]
  cases hinsert : h.shared.registry.insert i with
  | ok registry =>
    have hcall : (h.modify i fun c => { c with greeted := true }).call i
        ((Lobby.handler p).onConnected i) = _ := call_welcome_of_ok hgreeted hinsert
    rw [hcall] at hcarries ⊢
    exact ⟨hf.admitted hc hallows hinsert, hcarries⟩
  | error full =>
    have hcall : (h.modify i fun c => { c with greeted := true }).call i
        ((Lobby.handler p).onConnected i) = _ := call_welcome_of_error hgreeted hinsert
    rw [hcall] at hcarries ⊢
    exact ⟨hf.rejected hc hallows, hcarries⟩

/-! ### What connections do by themselves

For each kind of progress two things are said.  One is what the history is afterwards, and the other
what the connection has become, apart from its session and from what it was sent (`Carries`).  The
second is needed where two runs are compared. -/

/-- A connection greets the lobby before it does anything else. -/
theorem Follows.begun (hf : h.Follows p past) (hc : h.connection? i = some c) {progress : Progress}
    (hmay : c.MayDo progress) (hprogress : progress ≠ .greet) :
    .admitted i ∈ past ∨ .rejected i ∈ past := by
  rw [← (hf.tracks i c hc).greeted_iff]
  cases progress with
  | greet => exact absurd rfl hprogress
  | obey => exact hmay.2
  | receive | endOfStream | brokenOff | flush => exact hmay.2.1

/-- **A connection receives**, and then goes on or ends. -/
theorem Follows.receive (hf : h.Follows p past) (hc : h.connection? i = some c)
    (hmay : c.MayDo .receive) (pace : Pace) :
    ∃ h' : Hub Lobby Session,
      h.receive (Lobby.handler p) pace i =
        h'.conclude (Lobby.handler p) i (c.advanced p pace .receive).2 ∧
      h'.Follows p ((h.happenings i c pace .receive).reverse ++ past) ∧
      h.Carries i (c.advanced p pace .receive).1 h' := by
  obtain ⟨n, cursor, hfetch, -⟩ := c.fetch_spec pace
  -- no history speaks about the bytes that are read
  have hfetched : (h.modify i fun _ => c.fetched n cursor).Follows p past := by
    refine hf.modify fun d hd => ?_
    rw [hc] at hd
    cases hd
    exact ⟨rfl, rfl, rfl, rfl⟩
  have hc₁ : (h.modify i fun _ => c.fetched n cursor).connection? i = some (c.fetched n cursor) :=
    connection?_modify_self _ hc
  have hconnected : past.IsConnected i := (hf.tracks i c hc).connected_iff.mp hmay.1
  have hadmitted : .admitted i ∈ past :=
    (hf.begun hc hmay (by rintro ⟨⟩)).resolve_right hconnected.2.1
  obtain ⟨h₂, hcall, hf₂⟩ := hfetched.onReceived hc₁ hadmitted hconnected cursor.view
  have hcarries := carries_call hc (fun _ => c.fetched n cursor)
    ((Lobby.handler p).onReceived i cursor.view)
  rw [hcall] at hcarries
  have hhappenings : h.happenings i c pace .receive =
      (Lobby.packetsOf p c.session ((Decoder.ofPolicy p).scan cursor.view).frames).map
        (.handled i) := by
    rw [happenings, hfetch, hf.policy_eq]
    rfl
  rw [hhappenings, Hub.receive, hc, Connection.advanced]
  dsimp only
  rw [hfetch]
  dsimp only
  rw [show (c.fetched n cursor).cursor = cursor from rfl, hcall,
    show (c.fetched n cursor).session = c.session from rfl]
  cases hreceipt : Lobby.receipt p c.session cursor.view with
  | error cause => exact ⟨h₂, rfl, hf₂, hcarries⟩
  | ok used =>
    have hused := Lobby.le_of_receipt hreceipt
    rw [Cursor.length_view] at hused
    obtain ⟨cursor', hconsume⟩ := Cursor.consume_of_le hused
    refine ⟨h₂.modify i fun c => c.withCursor cursor', ?_,
      hf₂.modify fun d _ => ⟨rfl, rfl, rfl, rfl⟩, ?_⟩
    · dsimp only
      rw [if_neg (Nat.not_lt.mpr hused), hconsume]
      rfl
    · dsimp only
      rw [hconsume]
      exact hcarries.withCursor cursor'

/-- **A connection goes on with sending**, and then goes on or ends.  The lobby makes nothing of
what it is told of that. -/
theorem Follows.flush (hf : h.Follows p past) (hc : h.connection? i = some c) (pace : Pace) :
    ∃ h' : Hub Lobby Session,
      h.flush (Lobby.handler p) pace i =
        h'.conclude (Lobby.handler p) i (c.advanced p pace .flush).2 ∧
      h'.Follows p past ∧ h.Carries i (c.advanced p pace .flush).1 h' := by
  have hf₁ : (h.modify i fun _ => (c.sendOn pace).2).Follows p past := by
    refine hf.modify fun d hd => ?_
    rw [hc] at hd
    cases hd
    rw [(c.sendsOn pace).rest_eq]
    exact ⟨rfl, rfl, rfl, rfl⟩
  have hcarries := carries_modify hc fun _ => (c.sendOn pace).2
  refine ⟨_, ?_, hf₁, hcarries⟩
  rw [flush_eq _ pace hc, Connection.advanced]
  dsimp only
  rcases (c.sendOn pace).1 with cause | _ | total
  · rfl
  · rfl
  · have hsent : (h.modify i fun _ => (c.sendOn pace).2).call i ((Lobby.handler p).onSent i total) =
        (some (), h.modify i fun _ => (c.sendOn pace).2) :=
      call_pure (connection?_modify_self _ hc) ()
    dsimp only
    rw [hsent]
    rfl

/-- A connection that went on is dismissed if it ends. -/
theorem Follows.conclude (hf : h.Follows p past) (hc : h.connection? i = some c)
    (hbegun : .admitted i ∈ past ∨ .rejected i ∈ past) (hnot : .dismissed i ∉ past)
    (end? : Option DisconnectReason) :
    (h.conclude (Lobby.handler p) i end?).Follows p
        ((if end?.isSome then [.dismissed i] else []) ++ past) ∧
      (h.conclude (Lobby.handler p) i end?).connection? i = some (c.concluded end?) := by
  cases end? with
  | none => exact ⟨hf, hc⟩
  | some outcome => exact hf.teardown hc ⟨hbegun, hnot⟩ outcome

/-- What a connection does by itself, it does and then goes on or ends. -/
theorem Follows.advance_eq (hf : h.Follows p past) (hc : h.connection? i = some c)
    {progress : Progress} (hmay : c.MayDo progress) (pace : Pace) :
    ∃ h' : Hub Lobby Session,
      h.advance (Lobby.handler p) pace i progress =
        h'.conclude (Lobby.handler p) i (c.advanced p pace progress).2 ∧
      h'.Follows p ((h.happenings i c pace progress).reverse ++ past) ∧
      h.Carries i (c.advanced p pace progress).1 h' := by
  have hstays : h.Carries i c h := ⟨.refl h i, c, hc, .refl c⟩
  cases progress with
  | greet => exact ⟨_, rfl, hf.greet hc hmay pace⟩
  | receive => exact hf.receive hc hmay pace
  | flush => exact hf.flush hc pace
  | obey => exact ⟨h, rfl, hf, hstays⟩
  | endOfStream => exact ⟨h, rfl, hf, hstays⟩
  | brokenOff => exact ⟨h, rfl, hf, hstays⟩

/-- A connection does nothing by itself without having begun, and is not dismissed by the way. -/
theorem Follows.happenings_spec (hf : h.Follows p past) (hc : h.connection? i = some c)
    {progress : Progress} (hmay : c.MayDo progress) (pace : Pace) :
    let now := (h.happenings i c pace progress).reverse ++ past
    (.admitted i ∈ now ∨ .rejected i ∈ now) ∧ .dismissed i ∉ now := by
  have hnot := hf.not_dismissed hc hmay
  by_cases hprogress : progress = .greet
  · subst hprogress
    rw [happenings]
    split <;> simp [hnot]
  · have hbegun := hf.begun hc hmay hprogress
    have hquiet : .dismissed i ∉ h.happenings i c pace progress := by
      cases progress with
      | greet => exact absurd rfl hprogress
      | receive =>
        rw [happenings]
        split <;> simp
      | obey | endOfStream | brokenOff | flush => exact List.not_mem_nil
    simp only [List.mem_append, List.mem_reverse, not_or]
    exact ⟨hbegun.imp .inr .inr, hquiet, hnot⟩

/-- `h.Advances p now i made h'`: from `h` to `h'` connection `i` made of itself what `made` says,
up to the history `now`, and has ended then if there is a reason to. -/
structure Advances (p : FramePolicy) (now : History) (i : ConnectionId)
    (made : Connection Session × Option DisconnectReason) (h h' : Hub Lobby Session) : Prop where
  self : ∃ d, d.Tracks p now i ∧ (made.1.withSession d.session).Touched d ∧
    h'.connection? i = some (d.concluded made.2)
  within : h.Within i h'
  follows : h'.Follows p ((if made.2.isSome then [.dismissed i] else []) ++ now)

/-- **A connection does something by itself.** -/
theorem Follows.advance (hf : h.Follows p past) (hc : h.connection? i = some c)
    {progress : Progress} (hmay : c.MayDo progress) (pace : Pace) :
    h.Advances p ((h.happenings i c pace progress).reverse ++ past) i (c.advanced p pace progress)
      (h.advance (Lobby.handler p) pace i progress) := by
  obtain ⟨h', heq, hf', hcarries⟩ := hf.advance_eq hc hmay pace
  obtain ⟨hbegun, hnot⟩ := hf.happenings_spec hc hmay pace
  obtain ⟨d, hd, htouched⟩ := hcarries.touched
  obtain ⟨hfinal, hself⟩ := hf'.conclude hd hbegun hnot (c.advanced p pace progress).2
  rw [heq]
  exact ⟨⟨d, hf'.tracks i d hd, htouched, hself⟩,
    hcarries.within.trans (within_conclude ..), hfinal⟩

/-- It has ended if there was a reason to. -/
theorem Follows.phase?_advance (hf : h.Follows p past) (hc : h.connection? i = some c)
    {progress : Progress} (hmay : c.MayDo progress) (pace : Pace) :
    (h.advance (Lobby.handler p) pace i progress).phase? i = some .disconnected ↔
      (c.advanced p pace progress).2.isSome := by
  obtain ⟨-, hnot⟩ := hf.happenings_spec hc hmay pace
  obtain ⟨⟨d, -, -, hself⟩, -, hfinal⟩ := hf.advance hc hmay pace
  rw [phase?, hself, Option.map_some, Option.some.injEq, (hfinal.tracks i _ hself).disconnected_iff,
    List.mem_append, or_iff_left hnot]
  split <;> simp_all

end Hub

end ChatLobby
