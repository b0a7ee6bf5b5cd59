import ChatLobby.Acceptor
import ChatLobby.Rehearsal.Single

/-!
# Rehearsing an acceptor

An acceptor and those who connect to it, step by step.  Its connections have handlers that only
listen, and may have ended before they are started.
-/

namespace ChatLobby.Rehearsal.Accepting

/-- What may happen. -/
inductive Step where
  /-- Someone connects. -/
  | connect
  /-- Someone connects while no file can be opened, which soon passes. -/
  | starve
  /-- The listening socket breaks. -/
  | break
  /-- The acceptor is told to stop. -/
  | shutdown
  deriving DecidableEq, Repr

/-- A rehearsal of an acceptor. -/
structure Stage where
  /-- The connections that were made. -/
  hub : Hub Unit Notes := ⟨[], ()⟩
  /-- Where the acceptor stands. -/
  acceptor : AcceptorState := .running
  /-- Whether the end of the acceptor was reported. -/
  reported : Bool := false

/-- What is said of the acceptor after a step. -/
inductive Status where
  /-- It accepts. -/
  | running
  /-- It has just stopped. -/
  | stopped
  /-- It has just failed. -/
  | failed (cause : AcceptError)
  /-- It has stopped or failed before. -/
  | over
  deriving DecidableEq, Repr

/-- What can be seen after a step. -/
structure Outcome where
  status : Status
  /-- Where the connections stand that were made. -/
  phases : List Phase
  /-- The failures to accept that were logged in the step. -/
  log : List String
  /-- Whether whoever connected in the step was dropped at once. -/
  dropped : Bool
  deriving DecidableEq, Repr

/-- Accept whoever connects.  Answers whether the connection was dropped at once, since it had
ended before. -/
def takeIn (spent : Bool) (hub : Hub Unit Notes) : Bool × Hub Unit Notes :=
  let (i, hub) := hub.create {} {}
  let hub := if spent then (hub.act (Action.close i)).2 else hub
  match hub.start i (loopback Host.anyPort) with
  | .ok hub => (false, hub.settle Script.minimalBytes patience)
  | .error _ => (true, hub)

/-- What is said of the acceptor. -/
def statusOf (s : Stage) : Status :=
  match s.acceptor with
  | .running => .running
  | _ =>
    if s.reported then .over
    else
      match s.acceptor with
      | .failed cause => .failed (.fatal cause)
      | _ => .stopped

/-- Do one step.  Answers the failures to accept that were logged, and whether whoever connected was
dropped at once.  Nothing can be rehearsed if the host lets nobody connect. -/
def perform (host : Host) (spent : Bool) (s : Stage) :
    Step → Except SystemError ((List String × Bool) × Stage)
  | .shutdown => .ok (([], false), { s with acceptor := s.acceptor.stop })
  | .break => .ok (([], false), { s with acceptor := s.acceptor.meet .invalidArgument })
  | step => do
    host.connect (loopback Host.anyPort)
    if s.acceptor ≠ .running then return (([], false), s)
    else
      let (dropped, hub) := takeIn spent s.hub
      let log := if step = .starve then [AcceptVerdict.report .tooManyOpenFiles] else []
      return ((log, dropped), { s with hub })

/-- Do one step, and say how things stand. -/
def Stage.step (host : Host) (spent : Bool) (s : Stage) (step : Step) :
    Except SystemError (Outcome × Stage) := do
  let ((log, dropped), s) ← perform host spent s step
  let outcome := {
    status := statusOf s
    phases := s.hub.connections.map (·.phase)
    log
    dropped }
  return (outcome, { s with reported := s.acceptor ≠ .running })

/-- Do all steps. -/
def run (host : Host) (spent : Bool) (s : Stage) (steps : List Step) :
    Except SystemError (List Outcome) :=
  (rehearse (Stage.step host spent) s steps).map (·.1)

end ChatLobby.Rehearsal.Accepting
