import Shyam.Continuity.Sessions
import Shyam.Lib.Run

/-!
# Concurrent calls

Any number of calls of `request_continuity` on one service. A step starts a call, lets one call take
its next operation, or cancels one. A call can be cancelled where it suspends: at the lock, in
`get_record`, and while a provider runs. No handler of the pipeline catches a cancellation.
-/

namespace Shyam

open Python Interaction Continuity

namespace Continuity

variable {Snapshot : Type}

def Op.suspends : Op Snapshot → Bool
  | .enter _ | .getRecord _ | .transfer _ _ | .continueWork _ _ _ _ => true
  | .store _ | .createSnapshot | .navigate _ _ => false

def cancelled : Exc := ⟨"CancelledError", ""⟩

/-- A call: its request, what it has done, and what it has left to do. -/
structure Task (Snapshot : Type) where
  request : ContinuityRequest
  past : Past Snapshot
  rest : Script Snapshot ContinuitySession

/-- The service and its calls, by continuity id. -/
structure World (Snapshot : Type) where
  service : ContinuityService := {}
  tasks : Dict (Task Snapshot) := ∅

inductive Action (Snapshot : Type) where
  | request (continuityId : String) (request : ContinuityRequest)
  | resume (continuityId : String) (collaborator : (op : Op Snapshot) → Answer Snapshot op)
  | cancel (continuityId : String)

def Action.continuityId : Action Snapshot → String
  | .request continuityId _ => continuityId
  | .resume continuityId _ => continuityId
  | .cancel continuityId => continuityId

namespace World

variable (errorText : PyValue → PyValue → String)

def advance (w : World Snapshot) (continuityId : String) (task : Task Snapshot) (op : Op Snapshot)
    (next : Answer Snapshot op → Script Snapshot ContinuitySession) (answer : Answer Snapshot op) :
    World Snapshot where
  service := w.service.record ⟨op, answer⟩
  tasks := w.tasks.set continuityId
    { task with past := task.past ++ [⟨op, answer⟩], rest := next answer }

def stop (w : World Snapshot) (continuityId : String) (task : Task Snapshot) : World Snapshot :=
  { w with tasks := w.tasks.set continuityId { task with rest := .done (.error cancelled) } }

def begin (w : World Snapshot) (continuityId : String) (request : ContinuityRequest) :
    World Snapshot where
  service := w.service
  tasks := w.tasks.set continuityId
    ⟨request, [], requestContinuity errorText continuityId request⟩

def step (w : World Snapshot) : Action Snapshot → World Snapshot
  | .request continuityId request => w.begin errorText continuityId request
  | .resume continuityId collaborator =>
      match w.tasks.get? continuityId with
      | some task =>
          match task.rest with
          | .ask op next => w.advance continuityId task op next (w.service.answer collaborator op)
          | .done _ => w
      | none => w
  | .cancel continuityId =>
      match w.tasks.get? continuityId with
      | some task =>
          match task.rest with
          | .ask op _ => if op.suspends then w.stop continuityId task else w
          | .done _ => w
      | none => w

def Fresh (w : World Snapshot) : Action Snapshot → Prop
  | .request continuityId _ => continuityId ≠ "" ∧ w.tasks.get? continuityId = none
  | _ => True

end World

end Continuity

end Shyam
