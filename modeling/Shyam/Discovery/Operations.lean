import Shyam.Discovery.Registry
import Shyam.Lib.Run

/-!
# The operations of the registry

What each operation makes of the nodes and which events it publishes, in their order. `exceeds`
tells whether a node was last seen longer ago than the threshold.
-/

namespace Shyam

open Python

inductive EcosystemEvent where
  | discovered (node : DiscoveredNode)
  | updated (node : DiscoveredNode) (previousState : Option EcosystemNodeState)
  | stale (nodeId nodeName : String) (lastSeen : DateTime)
  | lost (nodeId nodeName : String) (lastSeen : DateTime)

def ProviderMap.erase (m : ProviderMap) (providerId : String) : ProviderMap where
  entries := m.entries.erase providerId
  keyed id p h := by
    rw [Dict.get?_erase] at h
    split_ifs at h
    exact m.keyed id p h

namespace DiscoveredNode

def withTouch (node : DiscoveredNode) (seenAt : DateTime) : DiscoveredNode :=
  { node with lastSeen := seenAt }

def withProvider (node : DiscoveredNode) (provider : DiscoveredProvider) : DiscoveredNode :=
  { node with providers := node.providers.put provider }

def withoutProvider (node : DiscoveredNode) (providerId : String) : DiscoveredNode :=
  { node with providers := node.providers.erase providerId }

/-- A node that was stale is available again. -/
def touched (seenAt : DateTime) (node : DiscoveredNode) : DiscoveredNode :=
  let updated := node.withTouch seenAt
  if updated.state = .stale then updated.withState .available else updated

/-- The node was not observed within the threshold. The local node is exempted. -/
def goesStale (exceeds : DateTime → Bool) (node : DiscoveredNode) : Bool :=
  !node.isLocal && (node.state = .available || node.state = .known) && exceeds node.lastSeen

def staleEvent (exceeds : DateTime → Bool) (node : DiscoveredNode) : Option EcosystemEvent :=
  if node.goesStale exceeds then some (.stale node.nodeId node.nodeName node.lastSeen) else none

def reconciled (exceeds : DateTime → Bool) (node : DiscoveredNode) : DiscoveredNode :=
  if node.goesStale exceeds then node.withState .stale else node

@[simp] theorem nodeId_touched (seenAt : DateTime) (node : DiscoveredNode) :
    (node.touched seenAt).nodeId = node.nodeId := by
  rw [touched]
  split_ifs <;> rfl

@[simp] theorem isLocal_touched (seenAt : DateTime) (node : DiscoveredNode) :
    (node.touched seenAt).isLocal = node.isLocal := by
  rw [touched]
  split_ifs <;> rfl

@[simp] theorem providers_touched (seenAt : DateTime) (node : DiscoveredNode) :
    (node.touched seenAt).providers = node.providers := by
  rw [touched]
  split_ifs <;> rfl

@[simp] theorem firstSeen_touched (seenAt : DateTime) (node : DiscoveredNode) :
    (node.touched seenAt).firstSeen = node.firstSeen := by
  rw [touched]
  split_ifs <;> rfl

theorem state_touched (seenAt : DateTime) (node : DiscoveredNode) :
    (node.touched seenAt).state = if node.state = .stale then .available else node.state := by
  change DiscoveredNode.state (if node.state = .stale then _ else _) = _
  split_ifs <;> rfl

@[simp] theorem nodeId_reconciled (exceeds : DateTime → Bool) (node : DiscoveredNode) :
    (node.reconciled exceeds).nodeId = node.nodeId := by
  rw [reconciled]
  split_ifs <;> rfl

@[simp] theorem isLocal_reconciled (exceeds : DateTime → Bool) (node : DiscoveredNode) :
    (node.reconciled exceeds).isLocal = node.isLocal := by
  rw [reconciled]
  split_ifs <;> rfl

@[simp] theorem providers_reconciled (exceeds : DateTime → Bool) (node : DiscoveredNode) :
    (node.reconciled exceeds).providers = node.providers := by
  rw [reconciled]
  split_ifs <;> rfl

@[simp] theorem firstSeen_reconciled (exceeds : DateTime → Bool) (node : DiscoveredNode) :
    (node.reconciled exceeds).firstSeen = node.firstSeen := by
  rw [reconciled]
  split_ifs <;> rfl

theorem state_reconciled (exceeds : DateTime → Bool) (node : DiscoveredNode) :
    (node.reconciled exceeds).state = if node.goesStale exceeds then .stale else node.state := by
  rw [reconciled]
  split_ifs <;> rfl

end DiscoveredNode

namespace EcosystemRegistry

def removeNode (registry : EcosystemRegistry) (nodeId : String) : EcosystemRegistry where
  nodes := registry.nodes.erase nodeId
  keyed id node h := by
    rw [Dict.get?_erase] at h
    split_ifs at h
    exact registry.keyed id node h

def touchNode (registry : EcosystemRegistry) (nodeId : String) (seenAt : DateTime) :
    EcosystemRegistry :=
  match registry.getNode nodeId with
  | some existing => registry.registerNode (existing.touched seenAt)
  | none => registry

def reconcileStale (registry : EcosystemRegistry) (exceeds : DateTime → Bool) :
    EcosystemRegistry where
  nodes := registry.nodes.mapValues (DiscoveredNode.reconciled exceeds)
  keyed id node h := by
    rw [Dict.get?_mapValues, Option.map_eq_some_iff] at h
    obtain ⟨existing, hexisting, rfl⟩ := h
    rw [DiscoveredNode.nodeId_reconciled]
    exact registry.keyed id existing hexisting

variable (registry : EcosystemRegistry) (id : String)

theorem getNode_touchNode (nodeId : String) (seenAt : DateTime) :
    (registry.touchNode nodeId seenAt).getNode id
      = if id = nodeId then (registry.getNode id).map (DiscoveredNode.touched seenAt)
        else registry.getNode id := by
  rw [touchNode]
  split
  · rename_i existing hexisting
    have hid : (existing.touched seenAt).nodeId = nodeId :=
      (DiscoveredNode.nodeId_touched seenAt existing).trans
        (registry.keyed nodeId existing hexisting)
    rw [getNode_registerNode, hid]
    split_ifs with hsame
    · rw [hsame, hexisting]
      rfl
    · rfl
  · rename_i hnone
    split_ifs with hsame
    · rw [hsame, hnone]
      rfl
    · rfl

theorem getNode_reconcileStale (exceeds : DateTime → Bool) :
    (registry.reconcileStale exceeds).getNode id
      = (registry.getNode id).map (DiscoveredNode.reconciled exceeds) :=
  Dict.get?_mapValues (DiscoveredNode.reconciled exceeds) registry.nodes id

end EcosystemRegistry

inductive RegistryOperation where
  | registerNode (node : DiscoveredNode) (overwrite : Bool)
  | touchNode (nodeId : String) (seenAt : DateTime)
  | updateNodeState (nodeId : String) (state : EcosystemNodeState)
  | addProvider (nodeId : String) (provider : DiscoveredProvider)
  | removeProvider (nodeId providerId : String)
  | removeNode (nodeId : String)
  | reconcileStale (exceeds : DateTime → Bool)

/-- A registry, and what it has published. -/
structure ObservedRegistry where
  registry : EcosystemRegistry := .empty
  published : List EcosystemEvent := []

namespace ObservedRegistry

/-- `self._nodes[node_id] = node`, and then one event. -/
def store (w : ObservedRegistry) (node : DiscoveredNode) (event : EcosystemEvent) :
    ObservedRegistry where
  registry := w.registry.registerNode node
  published := w.published ++ [event]

def step (w : ObservedRegistry) : RegistryOperation → ObservedRegistry
  | .registerNode node overwrite =>
      match w.registry.getNode node.nodeId with
      | none => w.store node (.discovered node)
      | some existing => if overwrite then w.store node (.updated node (some existing.state)) else w
  | .touchNode nodeId seenAt => { w with registry := w.registry.touchNode nodeId seenAt }
  | .updateNodeState nodeId state =>
      match w.registry.getNode nodeId with
      | none => w
      | some existing =>
          if existing.state = state then w
          else w.store (existing.withState state)
            (.updated (existing.withState state) (some existing.state))
  | .addProvider nodeId provider =>
      match w.registry.getNode nodeId with
      | none => w
      | some existing =>
          w.store (existing.withProvider provider)
            (.updated (existing.withProvider provider) (some existing.state))
  | .removeProvider nodeId providerId =>
      match w.registry.getNode nodeId with
      | none => w
      | some existing =>
          if (existing.providers.entries.get? providerId).isNone then w
          else w.store (existing.withoutProvider providerId)
            (.updated (existing.withoutProvider providerId) (some existing.state))
  | .removeNode nodeId =>
      match w.registry.getNode nodeId with
      | none => w
      | some removed =>
          { registry := w.registry.removeNode nodeId
            published := w.published ++ [.lost removed.nodeId removed.nodeName removed.lastSeen] }
  | .reconcileStale exceeds =>
      { registry := w.registry.reconcileStale exceeds
        published := w.published
          ++ w.registry.nodes.entries.filterMap fun entry => entry.2.staleEvent exceeds }

end ObservedRegistry

end Shyam
