import Shyam.Discovery.Models

/-!
# Descriptors of the local providers

The filesystem of the machine, and what Zarya and Flux report about themselves, as providers with
capabilities. `title` is `str.title`.
-/

namespace Shyam

open Python

/-! ### The filesystem -/

namespace LocalFilesystemProvider

def fileCapability (operation name description : String) : Capability where
  capabilityId := "file." ++ operation
  name := name
  version := "1.0.0"
  description := description
  availability := .available

def capabilityDefinitions : List Capability :=
  [fileCapability "read" "File Read" "Read content from the local machine filesystem",
    fileCapability "write" "File Write" "Write content to the local machine filesystem",
    fileCapability "list" "File List" "List directory contents on the local machine filesystem"]

def descriptor : Provider where
  providerId := "local.filesystem"
  name := "Local Filesystem"
  version := "1.0.0"
  description := "Provides access to the local machine filesystem"
  capabilities := capabilityDefinitions.map Capability.capabilityId
  metadata := ((∅ : Dict PyValue).set "scope" (.str "local")).set "type" (.str "filesystem")
  availability := .registered

end LocalFilesystemProvider

/-! ### Zarya -/

inductive EcosystemStatus where
  | ready
  | busy
  | starting
  | stopping
  | unavailable
deriving DecidableEq, Repr

structure DeviceInfo where
  deviceId : String
  displayName : String
  deviceType : String
  platform : String

/-- `model_dump`. -/
def DeviceInfo.toDict (device : DeviceInfo) : PyValue :=
  .dict [("device_id", .str device.deviceId), ("display_name", .str device.displayName),
    ("device_type", .str device.deviceType), ("platform", .str device.platform)]

structure CapabilityEntry where
  id : String
  version : String
  description : String := ""

/-- What a connected instance has reported: its identity, its capabilities and its status. -/
structure ZaryaReport where
  instanceId : String
  product : String
  version : String
  protocol : String
  platform : String
  architecture : String
  device : Option DeviceInfo := none
  capabilities : List CapabilityEntry := []
  allowedTools : List String := []
  status : EcosystemStatus

namespace ZaryaReport

def providerIdZarya : String := "zarya.agent"

def mapEcosystemStatusToAvailability : EcosystemStatus → AvailabilityStatus
  | .ready => .available
  | .busy => .available
  | .starting => .registered
  | .stopping => .unavailable
  | .unavailable => .unavailable

def mapCapabilityEntryToCapability (title : String → String) (entry : CapabilityEntry) :
    Capability where
  capabilityId := "zarya." ++ entry.id
  name := "Zarya " ++ title (entry.id.replace "." " ")
  version := entry.version
  description := entry.description
  availability := .available

def metadata (report : ZaryaReport) : Dict PyValue :=
  let described := (((((∅ : Dict PyValue).set "product" (.str report.product)).set "instance_id"
    (.str report.instanceId)).set "protocol" (.str report.protocol)).set "platform"
      (.str report.platform)).set "architecture" (.str report.architecture)
  let described := described.set "allowed_tools" (.list (report.allowedTools.map PyValue.str))
  match report.device with
  | some device => described.set "device" device.toDict
  | none => described

def mapToShyamProvider (report : ZaryaReport) : Provider where
  providerId := providerIdZarya
  name := "Zarya (" ++ report.platform ++ ")"
  version := report.version
  description := "Zarya sovereign agent [" ++ String.ofList (report.instanceId.toList.take 8) ++ "]"
  capabilities := report.capabilities.map fun entry => "zarya." ++ entry.id
  metadata := report.metadata
  availability := mapEcosystemStatusToAvailability report.status

end ZaryaReport

/-! ### Flux -/

inductive FluxNodeState where
  | initializing
  | running
  | listening
  | degraded
  | stopped
deriving DecidableEq, Repr

/-- What a connected gateway has reported: its identity and its status. -/
structure FluxReport where
  peerId : String
  version : String
  protocolVersion : String
  state : FluxNodeState
  discoveredPeerCount : ℕ := 0
  activePathCount : ℕ := 0

namespace FluxReport

def providerIdFlux : String := "flux.connectivity"

def connectivityCapability (operation name description : String) : Capability where
  capabilityId := "connectivity." ++ operation
  name := name
  version := "1.0.0"
  description := description
  availability := .available

def capabilityDefinitions : List Capability :=
  [connectivityCapability "peer_discovery" "Peer Discovery"
    "Discover Flux peers on the local network.",
    connectivityCapability "peer_resolution" "Peer Resolution"
      "Resolve a Flux peer by PeerId to connectivity details.",
    connectivityCapability "session" "Connectivity Session"
      "Establish a connectivity session to a Flux peer.",
    connectivityCapability "transfer" "Artifact Transfer" "Transfer an artifact to a Flux peer.",
    connectivityCapability "transfer_resume" "Resumable Transfer"
      "Resume an interrupted artifact transfer."]

def mapFluxStateToAvailability : FluxNodeState → AvailabilityStatus
  | .running => .available
  | .listening => .available
  | .degraded => .unavailable
  | .initializing => .unavailable
  | .stopped => .unavailable

def mapToShyamProvider (report : FluxReport) : Provider where
  providerId := providerIdFlux
  name := "Flux Connectivity"
  version := report.version
  description := "Aryntra Flux v" ++ report.version
    ++ " — adaptive multi-path P2P connectivity and transfer."
  capabilities := capabilityDefinitions.map Capability.capabilityId
  metadata :=
    ((((∅ : Dict PyValue).set "flux_peer_id" (.str report.peerId)).set "flux_protocol_version"
      (.str report.protocolVersion)).set "flux_discovered_peers"
        (.int report.discoveredPeerCount)).set
      "flux_active_paths" (.int report.activePathCount)
  availability := mapFluxStateToAvailability report.state

end FluxReport

end Shyam
