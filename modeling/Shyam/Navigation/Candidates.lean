import Shyam.Discovery.Registry

/-!
# Candidates

A candidate is a node, one of its providers, and a capability that matches.
-/

namespace Shyam

open Python

namespace Navigation

/-- A candidate with what the policy looks at. -/
structure Candidate extends NavigationCandidate where
  nodeName : String
  providerName : String
  capabilityId : String
  isLocal : Bool
  nodeState : EcosystemNodeState
  providerStatus : AvailabilityStatus
  capabilityAvailability : AvailabilityStatus

/-- The metadata of the node and of the provider, side by side. -/
def mergedMetadata (node : DiscoveredNode) (provider : DiscoveredProvider) : Dict PyValue :=
  ((∅ : Dict PyValue).set "node" (.dict node.metadata.entries)).set "provider"
    (.dict provider.metadata.entries)

def Candidate.of (node : DiscoveredNode) (provider : DiscoveredProvider)
    (cap : DiscoveredCapability) : Candidate where
  nodeId := node.nodeId
  nodeName := node.nodeName
  providerId := provider.providerId
  providerName := provider.name
  capabilityId := cap.capabilityId
  isLocal := node.isLocal
  nodeState := node.state
  providerStatus := provider.status
  capabilityAvailability := cap.availability
  metadata := mergedMetadata node provider

def discoverCandidates (snapshot : EcosystemSnapshot) (capabilityId : String) : List Candidate :=
  snapshot.nodes.entries.flatMap fun (_, node) =>
    node.providers.entries.entries.flatMap fun (_, provider) =>
      (provider.capabilities.filter (·.capabilityId = capabilityId)).map
        (Candidate.of node provider)

variable {registry : EcosystemRegistry} {localNodeId capabilityId : String} {candidate : Candidate}

theorem mem_discoverCandidates :
    candidate ∈ discoverCandidates (registry.createSnapshot localNodeId) capabilityId
      ↔ ∃ node provider cap, registry.getNode node.nodeId = some node
        ∧ node.providers.entries.get? provider.providerId = some provider
        ∧ cap ∈ provider.capabilities ∧ cap.capabilityId = capabilityId
        ∧ candidate = .of node provider cap := by
  simp only [discoverCandidates, EcosystemRegistry.createSnapshot, List.mem_flatMap, Prod.exists,
    List.mem_map, List.mem_filter, decide_eq_true_eq]
  constructor
  · rintro ⟨nodeId, node, hnode, providerId, provider, hprovider, cap, ⟨hcap, hid⟩, rfl⟩
    rw [← Dict.get?_eq_some_iff] at hprovider
    rw [← node.providers.keyed providerId provider hprovider] at hprovider
    exact ⟨node, provider, cap, (EcosystemRegistry.mem_nodes_iff.mp hnode).2,
      hprovider, hcap, hid, rfl⟩
  · rintro ⟨node, provider, cap, hnode, hprovider, hcap, hid, rfl⟩
    exact ⟨node.nodeId, node, EcosystemRegistry.mem_nodes_iff.mpr ⟨rfl, hnode⟩, provider.providerId,
      provider, Dict.get?_eq_some_iff.mp hprovider, cap, ⟨hcap, hid⟩, rfl⟩

end Navigation

end Shyam
