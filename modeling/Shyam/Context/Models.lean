import Shyam.Discovery.Models
import Shyam.Workflow.Models

/-!
# Context models

Running work, recent activity, and the events of the bus that change them.
-/

namespace Shyam

open Python

inductive WorkStatus where
  | running
  | completed
  | failed
  | cancelled
deriving DecidableEq, Repr

structure ActiveWorkItem where
  workflowId : String
  workflowName : String
  status : WorkStatus := .running
  stepCount : ℕ := 0
  completedSteps : ℕ := 0
  targetNodeId : Option String := none
  targetProviderId : Option String := none
  startedAt : DateTime
  finishedAt : Option DateTime := none
  error : Option String := none

inductive ActivityKind where
  | nodeDiscovered
  | nodeUpdated
  | nodeStale
  | nodeLost
  | workflowStarted
  | workflowCompleted
  | workflowFailed
  | workflowCancelled
deriving DecidableEq, Repr

structure RecentActivityEntry where
  kind : ActivityKind
  description : String
  occurredAt : DateTime
  relatedNodeId : Option String := none
  relatedWorkflowId : Option String := none

structure EcosystemState where
  version : ℕ
  discovery : EcosystemSnapshot
  activeWork : List ActiveWorkItem
  recentActivity : List RecentActivityEntry

/-! ### Events -/

/-- An event of a workflow, or one of the four about nodes. -/
inductive EventBody where
  | workflow (event : WorkflowEvent)
  | nodeDiscovered (node : DiscoveredNode)
  | nodeUpdated (node : DiscoveredNode)
  | nodeStale (nodeId nodeName : String)
  | nodeLost (nodeId nodeName : String)

structure BusEvent where
  timestamp : DateTime
  body : EventBody

/-- The classes of these events; none is a subclass of another. -/
inductive EventType where
  | workflowStarted
  | workflowCompleted
  | workflowFailed
  | workflowCancelled
  | workflowStepStarted
  | workflowStepCompleted
  | workflowStepFailed
  | workflowStepSkipped
  | nodeDiscovered
  | nodeUpdated
  | nodeStale
  | nodeLost
deriving DecidableEq, Repr

namespace EventType

def issubclass (eventType registered : EventType) : Bool := eventType = registered

end EventType

def WorkflowEvent.Kind.type : WorkflowEvent.Kind → EventType
  | started _ => .workflowStarted
  | completed _ => .workflowCompleted
  | failed _ _ => .workflowFailed
  | cancelled _ => .workflowCancelled
  | stepStarted _ _ _ => .workflowStepStarted
  | stepCompleted _ _ _ _ => .workflowStepCompleted
  | stepFailed _ _ _ => .workflowStepFailed
  | stepSkipped _ _ _ => .workflowStepSkipped

def EventBody.type : EventBody → EventType
  | workflow event => event.kind.type
  | nodeDiscovered _ => .nodeDiscovered
  | nodeUpdated _ => .nodeUpdated
  | nodeStale _ _ => .nodeStale
  | nodeLost _ _ => .nodeLost

end Shyam
