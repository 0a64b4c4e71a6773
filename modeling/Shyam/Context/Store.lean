import Shyam.Context.Models

/-!
# The ecosystem state store

The handlers of the store. Each runs in one piece under its lock.
-/

namespace Shyam

open Python

/-- `_activity` is a deque of at most `maxActivity` entries, the newest first. -/
structure EcosystemStateStore where
  maxActivity : ℕ
  version : ℕ := 0
  discovery : Option EcosystemSnapshot := none
  activeWork : Dict ActiveWorkItem := ∅
  activity : List RecentActivityEntry := []

namespace EcosystemStateStore

def updateDiscovery (self : EcosystemStateStore) (snapshot : EcosystemSnapshot) :
    EcosystemStateStore :=
  { self with discovery := some snapshot, version := self.version + 1 }

/-- `self._activity.appendleft(activity)` and a new version. -/
def recordActivity (self : EcosystemStateStore) (entry : RecentActivityEntry) :
    EcosystemStateStore :=
  { self with
    activity := (entry :: self.activity).take self.maxActivity, version := self.version + 1 }

def setActiveWork (self : EcosystemStateStore) (activeWork : Dict ActiveWorkItem) :
    EcosystemStateStore := { self with activeWork := activeWork }

/-! ### Workflow events -/

def onWorkflowStarted (self : EcosystemStateStore) (timestamp : DateTime)
    (workflowId workflowName : String) (stepCount : ℕ) : EcosystemStateStore :=
  (self.setActiveWork (self.activeWork.set workflowId
    { workflowId, workflowName, stepCount, startedAt := timestamp })).recordActivity
      { kind := .workflowStarted
        description :=
          "Workflow '" ++ workflowName ++ "' started (" ++ toString stepCount ++ " steps)."
        occurredAt := timestamp
        relatedWorkflowId := some workflowId }

/-- The completed item is stored and at once deleted. -/
def onWorkflowCompleted (self : EcosystemStateStore) (timestamp : DateTime)
    (workflowId workflowName : String) (completedStepsCount : ℕ) : EcosystemStateStore :=
  let popped := self.activeWork.erase workflowId
  let activeWork := match self.activeWork.get? workflowId with
    | some existing => (popped.set workflowId
        { existing with
          status := .completed
          completedSteps := completedStepsCount
          finishedAt := some timestamp }).erase workflowId
    | none => popped
  (self.setActiveWork activeWork).recordActivity
    { kind := .workflowCompleted
      description := "Workflow '" ++ workflowName ++ "' completed."
      occurredAt := timestamp
      relatedWorkflowId := some workflowId }

def onWorkflowFailed (self : EcosystemStateStore) (timestamp : DateTime)
    (workflowId workflowName error : String) : EcosystemStateStore :=
  (self.setActiveWork (self.activeWork.erase workflowId)).recordActivity
    { kind := .workflowFailed
      description := "Workflow '" ++ workflowName ++ "' failed: " ++ error
      occurredAt := timestamp
      relatedWorkflowId := some workflowId }

def onWorkflowCancelled (self : EcosystemStateStore) (timestamp : DateTime)
    (workflowId workflowName reason : String) : EcosystemStateStore :=
  (self.setActiveWork (self.activeWork.erase workflowId)).recordActivity
    { kind := .workflowCancelled
      description := "Workflow '" ++ workflowName ++ "' cancelled: " ++ reason
      occurredAt := timestamp
      relatedWorkflowId := some workflowId }

/-- The first known target stays. -/
def onStepStarted (self : EcosystemStateStore) (workflowId : String) :
    Option NavigationCandidate → EcosystemStateStore
  | none => self
  | some target =>
      match self.activeWork.get? workflowId with
      | some existing =>
          if existing.targetNodeId = none then
            self.setActiveWork (self.activeWork.set workflowId
              { existing with
                targetNodeId := some target.nodeId
                targetProviderId := some target.providerId })
          else self
      | none => self

/-! ### Node events -/

def onNode (self : EcosystemStateStore) (kind : ActivityKind) (timestamp : DateTime)
    (nodeId nodeName what : String) : EcosystemStateStore :=
  self.recordActivity
    { kind := kind
      description := "Node '" ++ nodeName ++ "' " ++ what
      occurredAt := timestamp
      relatedNodeId := some nodeId }

def onNodeDiscovered (self : EcosystemStateStore) (timestamp : DateTime) (node : DiscoveredNode) :
    EcosystemStateStore :=
  self.onNode .nodeDiscovered timestamp node.nodeId node.nodeName "discovered."

def onNodeUpdated (self : EcosystemStateStore) (timestamp : DateTime) (node : DiscoveredNode) :
    EcosystemStateStore := self.onNode .nodeUpdated timestamp node.nodeId node.nodeName "updated."

def onNodeStale (self : EcosystemStateStore) (timestamp : DateTime) (nodeId nodeName : String) :
    EcosystemStateStore := self.onNode .nodeStale timestamp nodeId nodeName "went stale."

def onNodeLost (self : EcosystemStateStore) (timestamp : DateTime) (nodeId nodeName : String) :
    EcosystemStateStore := self.onNode .nodeLost timestamp nodeId nodeName "lost."

/-! ### Reading -/

def getState (self : EcosystemStateStore) : EcosystemState where
  version := self.version
  discovery := self.discovery.getD { localNodeId := "unknown", nodes := ∅ }
  activeWork := self.activeWork.entries.map Prod.snd
  recentActivity := self.activity

end EcosystemStateStore

end Shyam
