import Shyam.Lib.Dict
import Shyam.Navigation.Models

/-!
# Discovery models

The providers and capabilities of the local node, and their normalized form on any node of the
ecosystem. A node keeps its providers under their ids.
-/

namespace Shyam

open Python

structure Capability where
  capabilityId : String
  name : String
  version : String := "1.0.0"
  description : String := ""
  availability : AvailabilityStatus := .registered

structure Provider where
  providerId : String
  name : String
  version : String := "1.0.0"
  description : String := ""
  capabilities : List String := []
  metadata : Dict PyValue := ∅
  availability : AvailabilityStatus := .registered

structure DiscoveredCapability where
  capabilityId : String
  name : String := ""
  version : String := "1.0.0"
  description : String := ""
  availability : AvailabilityStatus := .available

def DiscoveredCapability.fromCapability (cap : Capability) : DiscoveredCapability where
  capabilityId := cap.capabilityId
  name := cap.name
  version := cap.version
  description := cap.description
  availability := cap.availability

structure DiscoveredProvider where
  providerId : String
  name : String
  version : String := "1.0.0"
  description : String := ""
  capabilities : List DiscoveredCapability := []
  status : AvailabilityStatus := .available
  metadata : Dict PyValue := ∅
  lastSeen : DateTime

/-- Without capability models, the provider's own list of ids. -/
def DiscoveredProvider.fromProvider (provider : Provider) (capabilityModels : List Capability)
    (lastSeen : DateTime) : DiscoveredProvider where
  providerId := provider.providerId
  name := provider.name
  version := provider.version
  description := provider.description
  capabilities :=
    if capabilityModels = [] then
      provider.capabilities.map fun cid => { capabilityId := cid, name := cid }
    else capabilityModels.map DiscoveredCapability.fromCapability
  status := provider.availability
  metadata := provider.metadata
  lastSeen := lastSeen

structure ProviderMap where
  entries : Dict DiscoveredProvider := ∅
  keyed : ∀ id provider, entries.get? id = some provider → provider.providerId = id

namespace ProviderMap

def empty : ProviderMap := ⟨∅, by simp⟩

/-- `providers[provider.provider_id] = provider`. -/
def put (m : ProviderMap) (provider : DiscoveredProvider) : ProviderMap where
  entries := m.entries.set provider.providerId provider
  keyed id p h := by
    rw [Dict.get?_set] at h
    split_ifs at h with hid
    · rw [← Option.some.inj h, hid]
    · exact m.keyed id p h

/-- `if provider.provider_id not in providers: providers[provider.provider_id] = provider`. -/
def putMissing (m : ProviderMap) (provider : DiscoveredProvider) : ProviderMap :=
  if (m.entries.get? provider.providerId).isSome then m else m.put provider

end ProviderMap

structure DiscoveredNode where
  nodeId : String
  nodeName : String
  state : EcosystemNodeState := .known
  isLocal : Bool := false
  protocolVersion : String := "1.0.0"
  providers : ProviderMap := .empty
  metadata : Dict PyValue := ∅
  firstSeen : DateTime
  lastSeen : DateTime

def DiscoveredNode.withState (node : DiscoveredNode)
    (state : EcosystemNodeState) : DiscoveredNode :=
  { node with state := state }

structure EcosystemSnapshot where
  localNodeId : String
  nodes : Dict DiscoveredNode

end Shyam
