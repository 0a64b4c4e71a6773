import Shyam.Discovery.Datagrams
import Shyam.Lib.Broadcast
import Shyam.Lib.JsonRoundTrip
import Shyam.Lib.Substring

/-!
# Discovery broadcasts

What the announce loop sends, byte for byte, and the hosts of one network that hear each other. A
host announces as often as it likes, with the addresses that hold at the time.
-/

namespace Shyam

open Python Broadcast

/-- `ShyamSettings`, as far as discovery reads them. -/
structure DiscoverySettings where
  discoveryPort : ℤ := 54321
  zaryaEnabled : Bool := true
  zaryaUrl : String := "http://127.0.0.1:8765/ecosystem/v1"
  fluxEnabled : Bool := true
  fluxUrl : String := "http://127.0.0.1:9100/flux/v1"

/-- What an announcement reads besides: the address that a route to the internet leaves from, where
there is one, and the id that Flux has given. -/
structure Surroundings where
  lanIp : Option String := none
  fluxPeerId : Option String := none

def resolveLanUrl (lanIp : Option String) (url : String) : String :=
  if !contains url "127.0.0.1" && !contains url "localhost" then url
  else
    match lanIp with
    | some lanIp => replace (replace url "127.0.0.1" lanIp) "localhost" lanIp
    | none => url

def getDiscoveryMetadata (settings : DiscoverySettings) (around : Surroundings) : Dict PyValue :=
  let metadata : Dict PyValue :=
    if settings.zaryaEnabled ∧ settings.zaryaUrl ≠ "" then
      ((∅ : Dict PyValue).set "zarya_url" (.str (resolveLanUrl around.lanIp settings.zaryaUrl))).set
        "has_zarya"
        (.bool true)
    else ∅
  if settings.fluxEnabled ∧ settings.fluxUrl ≠ "" then
    let metadata := metadata.set "flux_url" (.str (resolveLanUrl around.lanIp settings.fluxUrl))
    match around.fluxPeerId with
    | some peerId => if peerId ≠ "" then metadata.set "flux_peer_id" (.str peerId) else metadata
    | none => metadata
  else metadata

namespace DiscoveryService

/-- `self._metadata_provider() or {}`; what the provider raises is dropped. -/
def extraMeta : Option (Except Exc PyValue) → PyValue
  | some (.ok provided) => if provided.truthy then provided else .dict []
  | some (.error _) | none => .dict []

def announcementPayload (identity : LocalIdentity) (port : ℤ) (extraMeta : PyValue) : PyValue :=
  .dict
    [("node_id", .str identity.nodeId), ("node_name", .str identity.nodeName), ("port", .int port),
      ("protocol_version", .str identity.protocolVersion), ("metadata", extraMeta)]

/-- One round of the loop. What `json.dumps` raises ends the loop. -/
def announcement (identity : LocalIdentity) (port : ℤ) (provided : Option (Except Exc PyValue)) :
    Except Exc Bytes :=
  (announcementPayload identity port (extraMeta provided)).toJson.map fun payload =>
    encodeUtf8 (payload.dumps .default)

end DiscoveryService

/-- A host of the network, and the address that its packets come from. -/
structure DiscoveryHost where
  identity : LocalIdentity
  address : String
  settings : DiscoverySettings := {}

namespace DiscoveryHost

def metadata (host : DiscoveryHost) (around : Surroundings) : Dict PyValue :=
  getDiscoveryMetadata host.settings around

def broadcast (host : DiscoveryHost) (around : Surroundings) : Except Exc Bytes :=
  DiscoveryService.announcement host.identity host.settings.discoveryPort
    (some (.ok (.dict (host.metadata around).entries)))

/-- What a host means to announce. -/
def announced (host : DiscoveryHost) (around : Surroundings) : Announcement where
  nodeId := host.identity.nodeId
  nodeName := .str host.identity.nodeName
  address := host.address
  port := .int host.settings.discoveryPort
  protocolVersion := .str host.identity.protocolVersion
  metadata := .dict (host.metadata around).entries

end DiscoveryHost

/-- What a host does between two packets. -/
inductive DiscoveryTask where
  | updatePeer (index : ℕ)
  | releaseLock
  | reap (now : DateTime)
  | announceLost
  | handleEvent

def DiscoveryTask.action : DiscoveryTask → UdpAction
  | updatePeer index => .updatePeer index
  | releaseLock => .releaseLock
  | reap now => .reap now
  | announceLost => .announceLost
  | handleEvent => .handleEvent

/-- A packet, with the address that it came from. -/
abbrev Packet := String × Bytes

section Hosts

variable {ι : Type} (rules : DiscoveryRules) (floatRepr : String → String)
  (hosts : ι → DiscoveryHost)

def discoveryParties : Parties ι UdpWorld Packet Surroundings DateTime DiscoveryTask where
  emit i around := ((hosts i).broadcast around).toOption.map fun data => ((hosts i).address, data)
  receive i now packet w :=
    (UdpWorld.datagramReceived rules (JsonValue.loads floatRepr)
      (some (hosts i).identity) now packet.2 packet.1
      w).toOption.getD w
  act i task w := UdpWorld.step rules (hosts i).identity w task.action

/-- Every host has described itself, and nothing is sent yet. -/
def silentNetwork (now : DateTime) (fabrics : ι → LocalFabric) : Lan ι UdpWorld Packet where
  party i := UdpWorld.start (hosts i).identity now (fabrics i)
  air := []

end Hosts

end Shyam
