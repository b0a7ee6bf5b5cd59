import ChatLobby.Proofs.History
import Mathlib.Data.List.Infix

/-!
# Connections apart

Connections that were never in one room have nothing to tell each other.  So if two histories differ
in what happened to connection `x` only, those who were apart from `x` in both of them were sent the
same.

* `SameTold.cons`, `SameTold.cons_left`: what happens to others, and what happens to `x` alone.
-/

namespace ChatLobby.History

variable {past past' : History} {e : Happening} {i k x : ConnectionId} {room : String}

/-- Connections `x` and `k` were at no time in the same room. -/
def Apart (x k : ConnectionId) (past : History) : Prop :=
  ∀ now, now <:+ past → ∀ room, roomOf x now = some room → roomOf k now ≠ some room

instance (x k : ConnectionId) (past : History) : Decidable (Apart x k past) :=
  decidable_of_iff (∀ now ∈ past.tails, ∀ room ∈ roomOf x now, roomOf k now ≠ some room) <| by
    simp only [List.mem_tails, Option.mem_def]
    rfl

/-- Whoever was never together with `x` was not so before either. -/
theorem Apart.of_suffix {before : History} (h : Apart x k past) (hsuffix : before <:+ past) :
    Apart x k before :=
  fun now hnow => h now (hnow.trans hsuffix)

theorem Apart.of_cons (h : Apart x k (e :: past)) : Apart x k past :=
  h.of_suffix (List.suffix_cons e past)

/-! ## The same but for one connection

Two runs of a server may differ in what `x` does, so that their histories have different lengths and
different orders.  What they have in common is what they say of each other connection, and only that
is asked for here. -/

/-- `SameBut x past past'`: the histories are the same in what happened to connections other than
`x`.  The order of it is left out. -/
structure SameBut (x : ConnectionId) (past past' : History) : Prop where
  arrivals_eq : past'.arrivals = past.arrivals
  session_eq : ∀ k, k ≠ x → sessionOf k past' = sessionOf k past
  mem_iff : ∀ k e, k ≠ x → e.subject? = some k → (e ∈ past' ↔ e ∈ past)

/-- The same thing makes the same of the same session. -/
theorem sessionOf_cons_congr (e : Happening) (h : sessionOf i past' = sessionOf i past) :
    sessionOf i (e :: past') = sessionOf i (e :: past) := by
  by_cases hsubject : e.subject? = some i
  · -- what becomes of a session depends on the session alone
    cases e with
    | arrived => cases hsubject
    | handled j packet =>
      cases hsubject
      rw [sessionOf_handled, sessionOf_handled, h]
    | dismissed j =>
      cases hsubject
      have hname : nameOf i past' = nameOf i past := congrArg Session.name h
      simp [sessionOf, roomOf, nameOf, hname]
    | admitted j | rejected j | asked j => exact h
  · rw [sessionOf_cons_of_ne hsubject, sessionOf_cons_of_ne hsubject, h]

namespace SameBut

theorem symm (h : SameBut x past past') : SameBut x past' past where
  arrivals_eq := h.arrivals_eq.symm
  session_eq k hk := (h.session_eq k hk).symm
  mem_iff k e hk he := (h.mem_iff k e hk he).symm

theorem roomOf_eq (h : SameBut x past past') (hk : k ≠ x) : roomOf k past' = roomOf k past :=
  congrArg Session.room (h.session_eq k hk)

theorem nameOf_eq (h : SameBut x past past') (hk : k ≠ x) : nameOf k past' = nameOf k past :=
  congrArg Session.name (h.session_eq k hk)

/-- Others are connected in both or in neither. -/
theorem isConnected_iff (h : SameBut x past past') (hk : k ≠ x) :
    IsConnected k past' ↔ IsConnected k past := by
  rw [IsConnected, IsConnected, h.arrivals_eq, h.mem_iff k _ hk rfl, h.mem_iff k _ hk rfl,
    h.mem_iff k _ hk rfl]

theorem cons (h : SameBut x past past') (e : Happening) : SameBut x (e :: past) (e :: past') where
  arrivals_eq := by
    rw [arrivals, arrivals, List.count_cons, List.count_cons, ← arrivals, ← arrivals, h.arrivals_eq]
  session_eq k hk := sessionOf_cons_congr e (h.session_eq k hk)
  mem_iff k e' hk he' := by rw [List.mem_cons, List.mem_cons, h.mem_iff k e' hk he']

theorem cons_left (h : SameBut x past past') (hsubject : e.subject? = some x) :
    SameBut x (e :: past) past' where
  arrivals_eq := by
    rw [h.arrivals_eq, arrivals_cons_of_ne]
    rintro rfl
    cases hsubject
  session_eq k hk := by
    rw [h.session_eq k hk, sessionOf_cons_of_ne (Happening.subject?_ne hsubject hk)]
  mem_iff k e' hk he' := by
    have hne : e' ≠ e := by
      rintro rfl
      exact Happening.subject?_ne hsubject hk he'
    rw [List.mem_cons, or_iff_right hne, h.mem_iff k e' hk he']

/-- A room has the same number of members if `x` is not in it. -/
theorem population_eq (h : SameBut x past past') (hx : roomOf x past ≠ some room)
    (hx' : roomOf x past' ≠ some room) : population room past' = population room past := by
  apply population_congr h.arrivals_eq
  intro i
  by_cases hi : i = x
  · subst hi
    exact iff_of_false hx' hx
  · rw [h.roomOf_eq hi]

/-! ### What is due

Numbers of members are the only thing that `x` can change about what others are told.  So whoever is
told one is in that room, and if it is apart from `x`, then `x` is not. -/

/-- A number of members is the same for whoever is not with `x`. -/
theorem announced_eq (h : SameBut x past past') (hk : k ≠ x)
    (hx : roomOf k past = some room → roomOf x past ≠ some room)
    (hx' : roomOf k past' = some room → roomOf x past' ≠ some room) :
    announced room past' k = announced room past k := by
  have hroom := h.roomOf_eq hk
  rw [announced, announced, hroom]
  split
  · next hin =>
    rw [h.population_eq (hx hin) (hx' (hroom.trans hin))]
  · rfl

end SameBut

/-- Apart means apart now. -/
theorem Apart.not_together (h : Apart x k past) (room : String) (hk : roomOf k past = some room) :
    roomOf x past ≠ some room :=
  fun hx => h past List.suffix_rfl room hx hk

/-- Whoever is in a room when another has left one was in it before. -/
theorem roomOf_leaving {j : ConnectionId} (h : roomOf j (.handled i .leave :: past) = some room) :
    roomOf j past = some room := by
  rcases roomOf_cons_eq_some h with ⟨name, heq⟩ | ⟨hroom, -⟩
  · injection heq with _ heq
    cases heq
  · exact hroom

/-- Whoever leaves a room, the rest of it is told the same. -/
theorem SameBut.onLeaving_eq (h : SameBut x past past') (hi : i ≠ x) (hk : k ≠ x)
    (hapart : Apart x k past) (hapart' : Apart x k past') :
    onLeaving i past' k = onLeaving i past k := by
  rw [onLeaving, onLeaving, h.roomOf_eq hi]
  cases roomOf i past with
  | none => rfl
  | some room =>
    refine (h.cons (.handled i .leave)).announced_eq hk (fun hroom hx => ?_) fun hroom hx => ?_
    · exact hapart.not_together room (roomOf_leaving hroom) (roomOf_leaving hx)
    · exact hapart'.not_together room (roomOf_leaving hroom) (roomOf_leaving hx)

/-- What happens to others is told in the same way. -/
theorem SameBut.due_eq (h : SameBut x past past') (hsubject : e.subject? ≠ some x) (hk : k ≠ x)
    (hapart : Apart x k (e :: past)) (hapart' : Apart x k (e :: past')) :
    due k e past' = due k e past := by
  have hleaving : ∀ i, i ≠ x → onLeaving i past' k = onLeaving i past k :=
    fun i hi => h.onLeaving_eq hi hk hapart.of_cons hapart'.of_cons
  cases e with
  | handled i packet =>
    have hi : i ≠ x := fun hi => hsubject (congrArg some hi)
    cases packet with
    | enter room name =>
      rw [due, due, hleaving i hi, (h.cons _).announced_eq hk (hapart.not_together room)
        (hapart'.not_together room)]
    | leave => exact hleaving i hi
    | chat text =>
      rw [due, due, onTalking, onTalking, h.roomOf_eq hi, h.nameOf_eq hi, h.roomOf_eq hk]
  | dismissed i => exact hleaving i fun hi => hsubject (congrArg some hi)
  | arrived | admitted i | rejected i | asked i => rfl

/-- **What happens to `x` is told to nobody who is apart from it.** -/
theorem Apart.due_eq_nil (h : Apart x k (e :: past)) (hsubject : e.subject? = some x)
    (hk : k ≠ x) : due k e past = [] := by
  have hstays : roomOf k (e :: past) = roomOf k past :=
    roomOf_cons_of_ne (Happening.subject?_ne hsubject hk)
  have hleaving : onLeaving x past k = [] := by
    rw [onLeaving]
    split
    · next room hroom =>
      rw [announced, if_neg]
      intro hin
      exact h.of_cons.not_together room (roomOf_leaving hin) hroom
    · rfl
  cases e with
  | arrived => cases hsubject
  | handled i packet =>
    cases hsubject
    -- whatever it is about, a room is involved in which `x` is or was
    cases packet with
    | enter room name =>
      rw [due, hleaving, announced, if_neg, List.append_nil]
      intro hin
      exact h.not_together room hin (if_pos rfl)
    | leave => exact hleaving
    | chat text =>
      rw [due, List.eq_nil_iff_forall_not_mem]
      intro sent hsent
      obtain ⟨room, _, hroom, -, -, hin, -⟩ := mem_onTalking hsent
      exact h.of_cons.not_together room hin hroom
  | dismissed i =>
    cases hsubject
    exact hleaving
  | admitted i | rejected i | asked i => rfl

/-! ## What was sent

The order in which things happen to `x` and to others may differ in the two histories.  But what is
due to someone who is apart from `x` does not depend on it, and what happens to `x` adds nothing. -/

/-- `SameTold x past past'`: the histories are the same but for `x`, and those who were apart from
it were sent the same. -/
structure SameTold (x : ConnectionId) (past past' : History) : Prop extends
    SameBut x past past' where
  sent_eq : ∀ k, k ≠ x → Apart x k past → Apart x k past' → sentTo k past' = sentTo k past

namespace SameTold

theorem nil (x : ConnectionId) : SameTold x [] [] where
  arrivals_eq := rfl
  session_eq _ _ := rfl
  mem_iff _ _ _ _ := Iff.rfl
  sent_eq _ _ _ _ := rfl

theorem symm (h : SameTold x past past') : SameTold x past' past where
  toSameBut := h.toSameBut.symm
  sent_eq k hk hapart hapart' := (h.sent_eq k hk hapart' hapart).symm

theorem cons (h : SameTold x past past') (hsubject : e.subject? ≠ some x) :
    SameTold x (e :: past) (e :: past') where
  toSameBut := h.toSameBut.cons e
  sent_eq k hk hapart hapart' := by
    rw [sentTo, sentTo, h.sent_eq k hk hapart.of_cons hapart'.of_cons,
      h.due_eq hsubject hk hapart hapart']
    simp only [h.isConnected_iff hk]

theorem cons_left (h : SameTold x past past') (hsubject : e.subject? = some x) :
    SameTold x (e :: past) past' where
  toSameBut := h.toSameBut.cons_left hsubject
  sent_eq k hk hapart hapart' := by
    rw [sentTo, h.sent_eq k hk hapart.of_cons hapart', hapart.due_eq_nil hsubject hk, ite_self,
      List.append_nil]

theorem append (h : SameTold x past past') (es : List Happening)
    (hes : ∀ e ∈ es, e.subject? ≠ some x) : SameTold x (es ++ past) (es ++ past') := by
  induction es with
  | nil => exact h
  | cons e es ih =>
    have hbefore := ih fun e' he' => hes e' (List.mem_cons_of_mem e he')
    exact hbefore.cons (hes e List.mem_cons_self)

theorem append_left (h : SameTold x past past') (es : List Happening)
    (hes : ∀ e ∈ es, e.subject? = some x) : SameTold x (es ++ past) past' := by
  induction es with
  | nil => exact h
  | cons e es ih =>
    have hbefore := ih fun e' he' => hes e' (List.mem_cons_of_mem e he')
    exact hbefore.cons_left (hes e List.mem_cons_self)

end SameTold

/-! ### Asking for the end

When everyone is asked to end, the order is that of the registry, which `x` may have changed.  As
nothing is due to anybody then, the order shows nowhere. -/

theorem arrivals_asked (ids : List ConnectionId) (past : History) :
    arrivals (ids.map .asked ++ past) = past.arrivals := by
  induction ids with
  | nil => rfl
  | cons i ids ih => exact (arrivals_cons_of_ne (by rintro ⟨⟩)).trans ih

theorem sessionOf_asked (ids : List ConnectionId) (past : History) (k : ConnectionId) :
    sessionOf k (ids.map .asked ++ past) = sessionOf k past := by
  induction ids with
  | nil => rfl
  | cons i ids ih => exact ih

/-- Nobody is told of being asked to end. -/
theorem sentTo_asked (ids : List ConnectionId) (past : History) (k : ConnectionId) :
    sentTo k (ids.map .asked ++ past) = sentTo k past := by
  induction ids with
  | nil => rfl
  | cons i ids ih =>
    rw [List.map_cons, List.cons_append, sentTo, ih, due, ite_self, List.append_nil]

/-- The same connections but for `x` are asked to end, in any order. -/
theorem SameTold.asked (h : SameTold x past past') {ids ids' : List ConnectionId}
    (hids : ∀ k, k ≠ x → (k ∈ ids' ↔ k ∈ ids)) :
    SameTold x (ids.map .asked ++ past) (ids'.map .asked ++ past') where
  arrivals_eq := by rw [arrivals_asked, arrivals_asked, h.arrivals_eq]
  session_eq k hk := by rw [sessionOf_asked, sessionOf_asked, h.session_eq k hk]
  mem_iff k e hk he := by
    have hasked : ∀ ids : List ConnectionId, e ∈ ids.map .asked ↔ e = .asked k ∧ k ∈ ids := by
      intro ids
      constructor
      · intro hmem
        obtain ⟨i, hi, rfl⟩ := List.mem_map.mp hmem
        cases he
        exact ⟨rfl, hi⟩
      · rintro ⟨rfl, hmem⟩
        exact List.mem_map_of_mem hmem
    rw [List.mem_append, List.mem_append, hasked, hasked, hids k hk, h.mem_iff k e hk he]
  sent_eq k hk hapart hapart' := by
    rw [sentTo_asked, sentTo_asked]
    exact h.sent_eq k hk (hapart.of_suffix (List.suffix_append ..))
      (hapart'.of_suffix (List.suffix_append ..))

end ChatLobby.History
