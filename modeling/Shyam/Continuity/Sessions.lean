import Shyam.Continuity.Service

/-!
# The session maps

The two maps of the service, what the lock section checks, and how the operations of a run change
them. The answers of a run take the admission from the maps and everything else from the
collaborators.
-/

namespace Shyam

open Python Interaction

namespace Continuity

abbrev Past (Snapshot : Type) := List (Event (Answer Snapshot))

/-- How the collaborators of a run answer, given what has happened. -/
abbrev Collaborators (Snapshot : Type) := Past Snapshot → (op : Op Snapshot) → Answer Snapshot op

end Continuity

open Continuity

/-- `_sessions` and `_work_continuities`. -/
structure ContinuityService where
  sessions : Dict ContinuitySession := ∅
  workContinuities : Dict String := ∅

namespace ContinuityService

variable {Snapshot : Type}

def activeSessions (service : ContinuityService) : ℕ :=
  service.sessions.entries.countP fun e => !e.2.state.isTerminal

def getSession (service : ContinuityService) (continuityId : String) : Option ContinuitySession :=
  service.sessions.get? continuityId

/-- The idempotency check for a new session. -/
def admission (service : ContinuityService) (session : ContinuitySession) : Except Exc Unit :=
  match service.workContinuities.get? session.request.workId with
  | none => .ok ()
  | some existingId =>
      if existingId = "" then .ok ()
      else
        match service.sessions.get? existingId with
        | none => .ok ()
        | some existing =>
            if existing.state.isTerminal then .ok ()
            else .error (ContinuityError.duplicateContinuity existingId session.request.workId)

def put (service : ContinuityService) (session : ContinuitySession) : ContinuityService :=
  { service with sessions := service.sessions.set session.continuityId session }

def putNew (service : ContinuityService) (session : ContinuitySession) : ContinuityService where
  sessions := service.sessions.set session.continuityId session
  workContinuities := service.workContinuities.set session.request.workId session.continuityId

def record (service : ContinuityService) : Event (Answer Snapshot) → ContinuityService
  | ⟨.enter session, .ok ()⟩ => service.putNew session
  | ⟨.store session, ()⟩ => service.put session
  | _ => service

/-- An operation is answered by the maps or by a collaborator. -/
def answer (service : ContinuityService) (collaborator : (op : Op Snapshot) → Answer Snapshot op) :
    (op : Op Snapshot) → Answer Snapshot op
  | .enter session => service.admission session
  | .store _ => ()
  | op => collaborator op

def after (service : ContinuityService) (past : Past Snapshot) : ContinuityService :=
  past.foldl record service

/-- One call of `request_continuity`, up to its end: what it did, and what it returned or raised. -/
def requestContinuity (service : ContinuityService) (collaborators : Collaborators Snapshot)
    (errorText : PyValue → PyValue → String) (continuityId : String) (request : ContinuityRequest) :
    Past Snapshot × Except Exc ContinuitySession :=
  (Continuity.requestContinuity errorText continuityId request).run
    (fun past => (service.after past).answer (collaborators past)) []

end ContinuityService

end Shyam
