import Shyam.Context.Store
import Shyam.Events.Bus

/-!
# The ecosystem context service

It subscribes the store to the events of workflows, and wrappers of its own to those of nodes, which
take a new snapshot of the registry after the store has handled the event.
-/

namespace Shyam

open Python

/-- The bound methods that the service subscribes. -/
inductive ContextHandler where
  | onWorkflowStarted
  | onWorkflowCompleted
  | onWorkflowFailed
  | onWorkflowCancelled
  | onStepStarted
  | onNodeDiscovered
  | onNodeUpdated
  | onNodeStale
  | onNodeLost
deriving DecidableEq, Repr

/-- What a handler does to the store. An event of another class has not the fields that it reads,
and leaves the store as it is. -/
def ContextHandler.handle (store : EcosystemStateStore) (timestamp : DateTime) :
    ContextHandler → EventBody → EcosystemStateStore
  | onWorkflowStarted, .workflow ⟨workflowId, workflowName, .started stepCount⟩ =>
      store.onWorkflowStarted timestamp workflowId workflowName stepCount
  | onWorkflowCompleted, .workflow ⟨workflowId, workflowName, .completed completedStepsCount⟩ =>
      store.onWorkflowCompleted timestamp workflowId workflowName completedStepsCount
  | onWorkflowFailed, .workflow ⟨workflowId, workflowName, .failed _ error⟩ =>
      store.onWorkflowFailed timestamp workflowId workflowName error
  | onWorkflowCancelled, .workflow ⟨workflowId, workflowName, .cancelled reason⟩ =>
      store.onWorkflowCancelled timestamp workflowId workflowName reason
  | onStepStarted, .workflow ⟨workflowId, _, .stepStarted _ _ target⟩ =>
      store.onStepStarted workflowId target
  | onNodeDiscovered, .nodeDiscovered node => store.onNodeDiscovered timestamp node
  | onNodeUpdated, .nodeUpdated node => store.onNodeUpdated timestamp node
  | onNodeStale, .nodeStale nodeId nodeName => store.onNodeStale timestamp nodeId nodeName
  | onNodeLost, .nodeLost nodeId nodeName => store.onNodeLost timestamp nodeId nodeName
  | _, _ => store

structure EcosystemContextService where
  bus : EventBus EventType ContextHandler := {}
  store : EcosystemStateStore
  subscribed : Bool := false

namespace EcosystemContextService

/-- The subscriptions of `start`. -/
def subscriptions : List (EventType × ContextHandler) :=
  [(.workflowStarted, .onWorkflowStarted), (.workflowCompleted, .onWorkflowCompleted),
    (.workflowFailed, .onWorkflowFailed), (.workflowCancelled, .onWorkflowCancelled),
    (.workflowStepStarted, .onStepStarted), (.nodeDiscovered, .onNodeDiscovered),
    (.nodeUpdated, .onNodeUpdated), (.nodeStale, .onNodeStale), (.nodeLost, .onNodeLost)]

/-- `_sync_snapshot`, with the snapshot that the registry creates. -/
def syncSnapshot (self : EcosystemContextService) (snapshot : EcosystemSnapshot) :
    EcosystemContextService := { self with store := self.store.updateDiscovery snapshot }

def start (self : EcosystemContextService) (snapshot : EcosystemSnapshot) :
    EcosystemContextService :=
  if self.subscribed then self
  else
    { self.syncSnapshot snapshot with
      bus := subscriptions.foldl (fun bus entry => bus.subscribe entry.1 entry.2) self.bus
      subscribed := true }

def publish (self : EcosystemContextService) (event : BusEvent) : EcosystemContextService :=
  { self with
    store := (self.bus.handlersToInvoke EventType.issubclass event.body.type).foldl
      (fun store handler => handler.handle store event.timestamp event.body) self.store }

end EcosystemContextService

end Shyam
