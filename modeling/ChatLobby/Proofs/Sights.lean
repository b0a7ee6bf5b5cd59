import ChatLobby.Proofs.Watching
import Mathlib.Data.List.Induction

/-!
# What may be seen of a connection

What may be seen next of a connection depends on what was seen of it (`Sight.Allowed`): a connection
that was asked to end receives nothing more, one whose handler was told of the end sends nothing
more, and the reason that is told is that of whatever came first.

`Sight.Rests` relates what was seen to the phase of the connection.  It is the invariant between one
move and the next.  Inside a move, a connection may be due to end (`Sight.Due`), and its handler may
have been told so (`Sight.Leaves`).  Whatever others do to it in the meantime keeps all of this
(`Sight.Carried`).
-/

namespace ChatLobby

namespace Sight

/-! ## What was seen

Three questions are asked of what was seen: whether the connection was started, whether someone has
decided its end, and whether its handler was told of that.  What may follow depends on the answers,
and on the first cause of an end that was seen. -/

/-- A socket was attached. -/
def Started (seen : List Sight) : Prop := .started ∈ seen

/-- The end was asked for, and that decided it. -/
def Asked (seen : List Sight) : Prop := .asked true ∈ seen

/-- The handler was told of the end. -/
def Gone (seen : List Sight) : Prop := ∃ reason, .told (.disconnected reason) ∈ seen

/-- The reason for an end that this is, if nobody asked for the end before.  What a callback does
that is told of the end is none. -/
def fault? : Sight → Option DisconnectReason
  | panicked (.disconnected _) => none
  | panicked _ => some (.ofError .handlerPanicked)
  | used count available =>
    if available < count then some (.ofError (.consumedOutOfRange count available)) else none
  | refused cause => some (.ofError cause)
  | ended => some .peerClosed
  | failed cause => some (.ofError (.io cause))
  | started | sent .. | asked _ | told _ => none

/-- The first such reason. -/
def cause? (seen : List Sight) : Option DisconnectReason := seen.findSome? fault?

/-- What may be seen next. -/
def Allowed (before : List Sight) : Sight → Prop
  | started => ¬ Started before ∧ ¬ Asked before
  | sent _ accepted => accepted = true → Started before ∧ ¬ Asked before ∧ ¬ Gone before
  | asked decided => decided = true → ¬ Asked before ∧ ¬ Gone before
  | told (.received _) => Started before ∧ ¬ Asked before ∧ ¬ Gone before
  | told (.disconnected reason) => Started before ∧ ¬ Gone before ∧
      (Asked before → reason = .requested) ∧ (¬ Asked before → cause? before = some reason)
  | told .connected | told (.sent _) => Started before ∧ ¬ Gone before
  | panicked _ | used .. | refused _ | ended | failed _ => True

/-- Everything was seen when it might be. -/
inductive Lawful : List Sight → Prop
  | nil : Lawful []
  | snoc {seen e} : Lawful seen → Allowed seen e → Lawful (seen ++ [e])

variable {seen before after : List Sight} {e : Sight}

/-- How the answers change with one thing more that is seen. -/
@[simp] theorem started_snoc : Started (seen ++ [e]) ↔ Started seen ∨ e = started := by
  simp [Started, eq_comm]

@[simp] theorem asked_snoc : Asked (seen ++ [e]) ↔ Asked seen ∨ e = asked true := by
  simp [Asked, eq_comm]

@[simp] theorem gone_snoc :
    Gone (seen ++ [e]) ↔ Gone seen ∨ ∃ reason, e = told (.disconnected reason) := by
  simp [Gone, exists_or, eq_comm]

@[simp] theorem cause?_snoc : cause? (seen ++ [e]) = (cause? seen).or e.fault? := by
  simp [cause?, List.findSome?_append]

/-- Whatever was seen was allowed when it was seen. -/
theorem Lawful.allowed (h : Lawful (before ++ e :: after)) : Allowed before e := by
  induction after using List.reverseRecOn with
  | nil =>
    generalize hseen : before ++ [e] = seen at h
    cases h with
    | nil => simp at hseen
    | snoc _ hallowed =>
      obtain ⟨rfl, rfl⟩ := List.append_singleton_inj.mp hseen
      exact hallowed
  | append_singleton after e' ih =>
    generalize hseen : before ++ e :: (after ++ [e']) = seen at h
    cases h with
    | nil => simp at hseen
    | snoc hlawful _ =>
      -- the last thing that was seen came later, and is taken away
      apply ih
      rw [← List.cons_append, ← List.append_assoc] at hseen
      obtain ⟨rfl, rfl⟩ := List.append_singleton_inj.mp hseen
      exact hlawful

/-- What was seen of a connection, by its phase. -/
def Stands (seen : List Sight) : Phase → Prop
  | .pending => ¬ Started seen ∧ ¬ Asked seen ∧ ¬ Gone seen ∧ cause? seen = none
  | .connected => Started seen ∧ ¬ Asked seen ∧ ¬ Gone seen ∧ cause? seen = none
  | .disconnecting => Started seen ∧ Asked seen ∧ ¬ Gone seen
  | .disconnected => Started seen → Gone seen

/-- What was seen of a connection between one move and the next. -/
structure Rests (seen : List Sight) (phase : Phase) : Prop where
  lawful : Lawful seen
  stands : Stands seen phase

/-- What was seen of a connection that is about to end for the given reason, unless someone asked
for the end before. -/
structure Due (outcome : DisconnectReason) (seen : List Sight) (phase : Phase) : Prop where
  lawful : Lawful seen
  started : Started seen
  not_gone : ¬ Gone seen
  decided : phase = .connected ∧ ¬ Asked seen ∧ cause? seen = some outcome ∨
    phase = .disconnecting ∧ Asked seen

/-- What was seen of a connection whose handler was told of the end. -/
structure Leaves (seen : List Sight) (phase : Phase) : Prop where
  lawful : Lawful seen
  gone : Gone seen
  phase_eq : phase = .disconnecting

/-- `Carried P`: what others do to a connection keeps what `P` says of it. -/
structure Carried (P : List Sight → Phase → Prop) : Prop where
  ignored : ∀ seen phase data, P seen phase → P (seen ++ [sent data false]) phase
  accepted : ∀ seen data, P seen .connected → P (seen ++ [sent data true]) .connected
  late : ∀ seen phase, P seen phase → P (seen ++ [asked false]) phase
  decided : ∀ seen, P seen .connected → P (seen ++ [asked true]) .disconnecting
  cancelled : ∀ seen, P seen .pending → P (seen ++ [asked true]) .disconnected

/-- What changes nothing may be seen at any time. -/
theorem Rests.snoc {phase : Phase} (h : Rests seen phase) (hallowed : Allowed seen e)
    (hstarted : Started (seen ++ [e]) ↔ Started seen) (hasked : Asked (seen ++ [e]) ↔ Asked seen)
    (hgone : Gone (seen ++ [e]) ↔ Gone seen) (hcause : e.fault? = none) :
    Rests (seen ++ [e]) phase where
  lawful := .snoc h.lawful hallowed
  stands := by
    have hstands := h.stands
    cases phase <;> simpa [Stands, hstarted, hasked, hgone, hcause] using hstands

/-- Whether this is what came of something, and may be the reason for an end. -/
def IsOutcome : Sight → Prop
  | panicked (.disconnected _) => False
  | panicked _ | used .. | refused _ | ended | failed _ => True
  | started | sent .. | asked _ | told _ => False

/-- `Settles sights end?`: what was seen at the end of something, and the reason `end?` for the end
of the connection that it is, if any. -/
inductive Settles : List Sight → Option DisconnectReason → Prop
  | nothing : Settles [] none
  | outcome {e : Sight} {end? : Option DisconnectReason} : e.IsOutcome → e.fault? = end? →
      Settles [e] end?

/-- An outcome may be seen at any time, and changes nothing but the cause. -/
theorem IsOutcome.snoc (h : e.IsOutcome) (seen : List Sight) :
    Allowed seen e ∧ (Started (seen ++ [e]) ↔ Started seen) ∧ (Asked (seen ++ [e]) ↔ Asked seen) ∧
      (Gone (seen ++ [e]) ↔ Gone seen) := by
  cases e <;> simp_all [IsOutcome, Allowed]

variable {phase : Phase} {sights : List Sight} {outcome : DisconnectReason}

/-- What is no reason for an end changes nothing. -/
theorem Rests.goesOn (h : Rests seen phase) (hsights : Settles sights none) :
    Rests (seen ++ sights) phase := by
  cases hsights with
  | nothing => rwa [List.append_nil]
  | outcome he hfault =>
    obtain ⟨hallowed, hstarted, hasked, hgone⟩ := he.snoc seen
    exact h.snoc hallowed hstarted hasked hgone hfault

/-- A connection that fails, or comes to its end, is due to end for that. -/
theorem Rests.due (h : Rests seen phase) (halive : phase = .connected ∨ phase = .disconnecting)
    (hsights : Settles sights (some outcome)) : Due outcome (seen ++ sights) phase := by
  cases hsights with
  | outcome he hfault =>
    obtain ⟨hallowed, hstarted, hasked, hgone⟩ := he.snoc seen
    have hstands := h.stands
    rcases halive with rfl | rfl
    · obtain ⟨hs, ha, hg, hcause⟩ := hstands
      refine ⟨.snoc h.lawful hallowed, hstarted.mpr hs, fun hg' => hg (hgone.mp hg'), ?_⟩
      exact .inl ⟨rfl, fun ha' => ha (hasked.mp ha'), by simp [hcause, hfault]⟩
    · obtain ⟨hs, ha, hg⟩ := hstands
      refine ⟨.snoc h.lawful hallowed, hstarted.mpr hs, fun hg' => hg (hgone.mp hg'), ?_⟩
      exact .inr ⟨rfl, hasked.mpr ha⟩

/-- What is due to end has not ended. -/
theorem Due.alive (h : Due outcome seen phase) :
    phase = .connected ∨ phase = .disconnecting :=
  h.decided.imp And.left And.left

theorem Due.told {reason : DisconnectReason} (h : Due outcome seen phase)
    (hreason : reason = if phase = .connected then outcome else .requested) :
    Leaves (seen ++ [told (.disconnected reason)]) .disconnecting where
  lawful := by
    refine .snoc h.lawful ⟨h.started, h.not_gone, ?_⟩
    rcases h.decided with ⟨rfl, hasked, hcause⟩ | ⟨rfl, hasked⟩
    · exact ⟨fun ha => absurd ha hasked, fun _ => hreason ▸ hcause⟩
    · exact ⟨fun _ => hreason, fun ha => absurd hasked ha⟩
  gone := by simp
  phase_eq := rfl

theorem Leaves.over (h : Leaves seen phase) (reason : DisconnectReason) (answer : Option Unit) :
    Rests (seen ++ Notice.outcome (.disconnected reason) answer) .disconnected := by
  cases answer with
  | none => exact ⟨.snoc h.lawful trivial, fun _ => by simpa [Notice.outcome] using h.gone⟩
  | some =>
    rw [Notice.outcome, List.append_nil]
    exact ⟨h.lawful, fun _ => h.gone⟩

/-- The handler may be told of the beginning, and of what was sent, until it is told of the end. -/
theorem Rests.notice (h : Rests seen phase) (halive : phase = .connected ∨ phase = .disconnecting)
    {notice : Notice} (hnotice : notice = .connected ∨ ∃ count, notice = .sent count) :
    Rests (seen ++ [told notice]) phase := by
  have hstands : Started seen ∧ ¬ Gone seen := by
    have hstands := h.stands
    rcases halive with rfl | rfl
    · exact ⟨hstands.1, hstands.2.2.1⟩
    · exact ⟨hstands.1, hstands.2.2⟩
  rcases hnotice with rfl | ⟨count, rfl⟩
  · exact h.snoc hstands (by simp) (by simp) (by simp) rfl
  · exact h.snoc hstands (by simp) (by simp) (by simp) rfl

/-- It is told of what was received only as long as nobody has asked for the end. -/
theorem Rests.received (h : Rests seen .connected) (data : Bytes) :
    Rests (seen ++ [told (Notice.received data)]) .connected := by
  obtain ⟨hstarted, hasked, hgone, -⟩ := h.stands
  exact h.snoc ⟨hstarted, hasked, hgone⟩ (by simp) (by simp) (by simp) rfl

end Sight

end ChatLobby
