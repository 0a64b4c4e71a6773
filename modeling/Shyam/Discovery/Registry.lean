import Shyam.Discovery.Models

/-!
# The ecosystem registry

Nodes under their ids. Its events are left out.
-/

namespace Shyam

open Python

structure EcosystemRegistry where
  nodes : Dict DiscoveredNode := ∅
  keyed : ∀ id node, nodes.get? id = some node → node.nodeId = id

namespace EcosystemRegistry

def empty : EcosystemRegistry := ⟨∅, by simp⟩

def getNode (registry : EcosystemRegistry) (nodeId : String) : Option DiscoveredNode :=
  registry.nodes.get? nodeId

/-- Every caller overwrites. -/
def registerNode (registry : EcosystemRegistry) (node : DiscoveredNode) : EcosystemRegistry where
  nodes := registry.nodes.set node.nodeId node
  keyed id n h := by
    rw [Dict.get?_set] at h
    split_ifs at h with hid
    · rw [← Option.some.inj h, hid]
    · exact registry.keyed id n h

def getLocalNode (registry : EcosystemRegistry) : Option DiscoveredNode :=
  (registry.nodes.entries.find? fun entry => entry.2.isLocal).map Prod.snd

/-- `local_id = local_node_id`, or that of the local node. -/
def createSnapshot (registry : EcosystemRegistry) (localNodeId : String) : EcosystemSnapshot where
  localNodeId :=
    if localNodeId = "" then (registry.getLocalNode.map DiscoveredNode.nodeId).getD "unknown"
    else localNodeId
  nodes := registry.nodes

@[simp] theorem getNode_registerNode (registry : EcosystemRegistry) (node : DiscoveredNode)
    (id : String) : (registry.registerNode node).getNode id
      = if id = node.nodeId then some node else registry.getNode id :=
  Dict.get?_set registry.nodes node.nodeId node id

theorem mem_nodes_iff {registry : EcosystemRegistry} {id : String} {node : DiscoveredNode} :
    (id, node) ∈ registry.nodes.entries
      ↔ id = node.nodeId ∧ registry.getNode node.nodeId = some node := by
  rw [getNode, ← Dict.get?_eq_some_iff]
  constructor
  · intro h
    have hid := registry.keyed id node h
    exact ⟨hid.symm, hid ▸ h⟩
  · rintro ⟨rfl, h⟩
    exact h

end EcosystemRegistry

end Shyam
