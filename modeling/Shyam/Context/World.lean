import Shyam.Context.Service
import Shyam.Lib.Run
import Shyam.Workflow.Engine

/-!
# Runs beside the store

Any number of runs of the workflow engine on the bus of the context service. A step starts a run,
lets one run take its next operation, publishes an event about a node, or takes a new snapshot of
the registry. A publication counts as one step: the run goes on only after the handlers are done,
and the store handles one event at a time, so the step stands at the moment when the store handles
the event.
-/

namespace Shyam

open Python Interaction WorkflowEngine

/-- A run: its workflow, what it has done, and what it has left to do. -/
structure WorkflowTask where
  workflow : Workflow
  past : Past
  rest : WorkflowEngine.Script WorkflowResult

/-- The service, the runs by workflow id, and the events that the bus has handled. -/
structure ContextWorld where
  service : EcosystemContextService
  tasks : Dict WorkflowTask := ∅
  handled : List BusEvent := []

namespace ContextWorld

inductive Action where
  | run (workflow : Workflow)
  | resume (workflowId : String) (now : DateTime) (environment : (op : Op) → Answer op)
  | publishNode (event : BusEvent)
  | syncSnapshot (snapshot : EcosystemSnapshot)

def handle (w : ContextWorld) (event : BusEvent) : ContextWorld :=
  { w with service := w.service.publish event, handled := w.handled ++ [event] }

def observe (w : ContextWorld) (now : DateTime) : Op → ContextWorld
  | .publish event => w.handle ⟨now, .workflow event⟩
  | _ => w

def setTask (w : ContextWorld) (workflowId : String) (task : WorkflowTask) : ContextWorld :=
  { w with tasks := w.tasks.set workflowId task }

def step (w : ContextWorld) : Action → ContextWorld
  | .run workflow => w.setTask workflow.workflowId ⟨workflow, [], WorkflowEngine.run workflow⟩
  | .resume workflowId now environment =>
      match w.tasks.get? workflowId with
      | some task =>
          match task.rest with
          | .ask op next => (w.observe now op).setTask workflowId
              { task with
                past := task.past ++ [⟨op, environment op⟩], rest := next (environment op) }
          | .done _ => w
      | none => w
  | .publishNode event =>
      match event.body with
      | .workflow _ => w
      | _ => w.handle event
  | .syncSnapshot snapshot => { w with service := w.service.syncSnapshot snapshot }

/-- A store that keeps `maxActivity` entries, subscribed by the service. -/
def start (maxActivity : ℕ) (snapshot : EcosystemSnapshot) : ContextWorld where
  service := EcosystemContextService.start { store := { maxActivity } } snapshot

def Action.started : Action → Option String
  | .run workflow => some workflow.workflowId
  | _ => none

def Returned (w : ContextWorld) : Prop :=
  ∀ workflowId task, w.tasks.get? workflowId = some task → ∃ result, task.rest = .done result

def state (w : ContextWorld) : EcosystemState := w.service.store.getState

end ContextWorld

end Shyam
