import Shyam.Discovery.Registry
import Shyam.Lib.Run
import Shyam.Lib.Uuid

/-!
# The ecosystem discovery service

The local node, the peers of Flux and the peers that announce themselves over UDP, as nodes of the
registry. An announced field is whatever the datagram held, and a peer that does not fit the models
of the registry leaves it as it is.
-/

namespace Shyam

open Python

/-- A UDP peer. Its announced fields are checked when it is discovered but not when it is
updated. -/
structure Peer where
  nodeId : String
  nodeName : PyValue
  address : String
  port : PyValue
  protocolVersion : PyValue
  discoveredAt : DateTime
  lastSeen : DateTime
  metadata : PyValue

/-- What the schema of a peer asks for. -/
structure Peer.Valid (peer : Peer) : Prop where
  nodeId : IsUuidText peer.nodeId
  nodeName : ∃ nodeName, peer.nodeName = .str nodeName
  port : ∃ port, peer.port = .int port
  protocolVersion : ∃ protocolVersion, peer.protocolVersion = .str protocolVersion
  metadata : ∃ fields, peer.metadata = .dict fields

/-- `paths` is the number of paths. -/
structure FluxPeerInfo where
  peerId : String
  address : Option String := none
  paths : ℕ := 0
  connectivity : String := "unknown"

structure LocalIdentity where
  nodeId : String
  nodeName : String
  protocolVersion : String := "0.2.0"

/-- What the local node offers: the two registries, and the descriptors of Zarya and Flux when they
are connected. -/
structure LocalFabric where
  providers : List Provider := []
  capabilities : Dict Capability := ∅
  zarya : Option (Provider × List Capability) := none
  flux : Option (Provider × List Capability) := none

/-- A dictionary of parsed JSON: the last of equal keys counts. -/
def dictOf (fields : List (String × PyValue)) : Dict PyValue :=
  fields.foldl (fun d field => d.set field.1 field.2) ∅

namespace EcosystemDiscoveryService

/-! ### The local node -/

/-- A capability that is not registered is described by its id alone. -/
def capabilityModel (fabric : LocalFabric) (prov : Provider) (cid : String) : Capability :=
  (fabric.capabilities.get? cid).getD
    { capabilityId := cid, name := cid, availability := prov.availability }

def localProviders (now : DateTime) (fabric : LocalFabric) : ProviderMap :=
  let discovered := fabric.providers.foldl (fun m prov =>
    m.put (.fromProvider prov (prov.capabilities.map (capabilityModel fabric prov)) now)) .empty
  let discovered := match fabric.zarya with
    | some (descriptor, caps) => discovered.putMissing (.fromProvider descriptor caps now)
    | none => discovered
  match fabric.flux with
  | some (descriptor, caps) => discovered.putMissing (.fromProvider descriptor caps now)
  | none => discovered

def localNode (self : LocalIdentity) (now : DateTime) (fabric : LocalFabric)
    (registry : EcosystemRegistry) : DiscoveredNode where
  nodeId := self.nodeId
  nodeName := self.nodeName
  state := .available
  isLocal := true
  protocolVersion := self.protocolVersion
  providers := localProviders now fabric
  metadata := (∅ : Dict PyValue).set "environment" (.str "local")
  firstSeen := ((registry.getNode self.nodeId).map DiscoveredNode.firstSeen).getD now
  lastSeen := now

def discoverLocalNode (self : LocalIdentity) (now : DateTime) (fabric : LocalFabric)
    (registry : EcosystemRegistry) : EcosystemRegistry :=
  registry.registerNode (localNode self now fabric registry)

/-! ### Flux peers -/

def fluxState (connectivity : String) : EcosystemNodeState :=
  if connectivity = "reachable" then .available
  else if connectivity = "unreachable" then .unavailable
  else .known

def fluxStatus (state : EcosystemNodeState) : AvailabilityStatus :=
  if state = .available then .available else .unavailable

def fluxCapability (state : EcosystemNodeState) : DiscoveredCapability where
  capabilityId := "flux.transfer"
  name := "Flux Data Transfer"
  availability := fluxStatus state

def fluxProvider (now : DateTime) (peer : FluxPeerInfo) (state : EcosystemNodeState) :
    DiscoveredProvider where
  providerId := "flux.peer"
  name := "Flux Peer Connectivity"
  version := "1.0.0"
  capabilities := [fluxCapability state]
  status := fluxStatus state
  metadata := ((∅ : Dict PyValue).set "paths_count" (.int peer.paths)).set "connectivity"
    (.str peer.connectivity)
  lastSeen := now

def fluxMetadata (peer : FluxPeerInfo) : Dict PyValue :=
  ((((∅ : Dict PyValue).set "origin" (.str "flux_gateway")).set "flux_peer_id"
    (.str peer.peerId)).set "address" ((peer.address.map PyValue.str).getD .none)).set
      "connectivity"
      (.str peer.connectivity)

def fluxNode (now : DateTime) (registry : EcosystemRegistry) (peer : FluxPeerInfo) :
    DiscoveredNode where
  nodeId := "flux:" ++ peer.peerId
  nodeName := "flux-peer-" ++ String.ofList (peer.peerId.toList.take 8)
  state := fluxState peer.connectivity
  isLocal := false
  protocolVersion := "1.0.0"
  providers := ProviderMap.empty.put (fluxProvider now peer (fluxState peer.connectivity))
  metadata := fluxMetadata peer
  firstSeen := ((registry.getNode ("flux:" ++ peer.peerId)).map DiscoveredNode.firstSeen).getD now
  lastSeen := now

def ingestFluxPeers (now : DateTime) (peers : List FluxPeerInfo) (registry : EcosystemRegistry) :
    EcosystemRegistry :=
  peers.foldl (fun registry peer => registry.registerNode (fluxNode now registry peer)) registry

/-- What the Flux provider has to say: it is not connected, it raises, or it returns the peers. -/
inductive GatewayAnswer where
  | disconnected
  | failed
  | returned (now : DateTime) (peers : List FluxPeerInfo)

def discover (self : LocalIdentity) (now : DateTime) (fabric : LocalFabric) (answer : GatewayAnswer)
    (registry : EcosystemRegistry) : EcosystemSnapshot × EcosystemRegistry :=
  let registry := discoverLocalNode self now fabric registry
  let registry := match answer with
    | .returned now peers => ingestFluxPeers now peers registry
    | .disconnected | .failed => registry
  (registry.createSnapshot self.nodeId, registry)

theorem discover_unanswered {answer : GatewayAnswer} (h : ∀ now peers, answer ≠ .returned now peers)
    (self : LocalIdentity) (now : DateTime) (fabric : LocalFabric) (registry : EcosystemRegistry) :
    (discover self now fabric answer registry).2 = discoverLocalNode self now fabric registry := by
  cases answer with
  | disconnected => rfl
  | failed => rfl
  | returned now peers => exact absurd rfl (h now peers)

/-! ### UDP peers -/

def inspectCapability : DiscoveredCapability where
  capabilityId := "shyam.runtime.inspect"
  name := "Runtime Introspection"
  availability := .available

def continueCapability : DiscoveredCapability where
  capabilityId := "zarya.work.continue"
  name := "Zarya Work Continuation"
  availability := .available

def peerProvider (peer : Peer) (protocolVersion : String) : DiscoveredProvider where
  providerId := "shyam.peer"
  name := "Remote Shyam Node"
  version := protocolVersion
  capabilities := [inspectCapability]
  status := .available
  metadata := ((∅ : Dict PyValue).set "address" (.str peer.address)).set "port" peer.port
  lastSeen := peer.lastSeen

def zaryaProvider (peer : Peer) (announced : Dict PyValue) : DiscoveredProvider where
  providerId := "zarya.agent"
  name := "Zarya Agent Provider"
  version := "1.0.0"
  capabilities := [continueCapability]
  status := .available
  metadata := (∅ : Dict PyValue).set "zarya_url" (announced.getD "zarya_url" .none)
  lastSeen := peer.lastSeen

/-- `peer.metadata.get("zarya_url") or peer.metadata.get("has_zarya")`. -/
def announcesZarya (announced : Dict PyValue) : Bool :=
  (announced.getD "zarya_url" .none).truthy || (announced.getD "has_zarya" .none).truthy

def udpProviders (peer : Peer) (protocolVersion : String)
    (announced : Dict PyValue) : ProviderMap :=
  let providers :=
    if announcesZarya announced then ProviderMap.empty.put (zaryaProvider peer announced)
    else .empty
  providers.put (peerProvider peer protocolVersion)

/-- What the peer announced goes last and may overwrite the address it came from. -/
def udpMetadata (peer : Peer) (announced : Dict PyValue) : Dict PyValue :=
  ((((∅ : Dict PyValue).set "origin" (.str "udp_broadcast")).set "address"
    (.str peer.address)).set "port" peer.port).update announced

def udpNode (registry : EcosystemRegistry) (peer : Peer) (nodeName protocolVersion : String)
    (announced : Dict PyValue) : DiscoveredNode where
  nodeId := peer.nodeId
  nodeName := nodeName
  state := .available
  isLocal := false
  protocolVersion := protocolVersion
  providers := udpProviders peer protocolVersion announced
  metadata := udpMetadata peer announced
  firstSeen := ((registry.getNode peer.nodeId).map DiscoveredNode.firstSeen).getD peer.discoveredAt
  lastSeen := peer.lastSeen

/-- A peer whose fields the models refuse makes the ingestion raise, and the event bus keeps that to
itself. -/
def ingestUdpPeer (peer : Peer) (registry : EcosystemRegistry) : EcosystemRegistry :=
  match peer.nodeName, peer.protocolVersion, peer.metadata with
  | .str nodeName, .str protocolVersion, .dict fields =>
      registry.registerNode (udpNode registry peer nodeName protocolVersion (dictOf fields))
  | _, _, _ => registry

/-- A peer that fits its schema is registered. -/
theorem exists_ingestUdpPeer_eq {peer : Peer} (h : peer.Valid) :
    ∃ nodeName protocolVersion announced, ∀ registry, ingestUdpPeer peer registry
      = registry.registerNode (udpNode registry peer nodeName protocolVersion announced) := by
  obtain ⟨nodeName, hnodeName⟩ := h.nodeName
  obtain ⟨protocolVersion, hprotocolVersion⟩ := h.protocolVersion
  obtain ⟨fields, hmetadata⟩ := h.metadata
  refine ⟨nodeName, protocolVersion, dictOf fields, fun registry => ?_⟩
  rw [ingestUdpPeer, hnodeName, hprotocolVersion, hmetadata]

def handleUdpPeerLost (nodeId : String) (registry : EcosystemRegistry) : EcosystemRegistry :=
  match registry.getNode nodeId with
  | some node =>
      if node.isLocal then registry else registry.registerNode (node.withState .unavailable)
  | none => registry

/-! ### What becomes of one node -/

variable {registry : EcosystemRegistry} {id : String}

theorem getNode_discoverLocalNode_other {self : LocalIdentity} (now : DateTime)
    (fabric : LocalFabric) (hother : id ≠ self.nodeId) :
    (discoverLocalNode self now fabric registry).getNode id = registry.getNode id :=
  (EcosystemRegistry.getNode_registerNode registry _ id).trans (if_neg hother)

theorem getNode_ingestFluxPeers_unlisted {peers : List FluxPeerInfo}
    (h : ∀ peer ∈ peers, id ≠ "flux:" ++ peer.peerId) (now : DateTime) :
    (ingestFluxPeers now peers registry).getNode id = registry.getNode id := by
  induction peers generalizing registry with
  | nil => rfl
  | cons peer peers ih =>
      refine (ih fun peer hpeer => h peer (List.mem_cons_of_mem _ hpeer)).trans ?_
      rw [EcosystemRegistry.getNode_registerNode]
      exact if_neg (h peer List.mem_cons_self)

theorem getNode_ingestFluxPeers_other (hid : IsUuidText id) (now : DateTime)
    (peers : List FluxPeerInfo) :
    (ingestFluxPeers now peers registry).getNode id = registry.getNode id :=
  getNode_ingestFluxPeers_unlisted (fun peer _ => hid.ne_flux peer.peerId) now

/-- The last of the peers under one id counts. -/
theorem exists_getNode_ingestFluxPeers (registry : EcosystemRegistry) {peers : List FluxPeerInfo}
    (h : ∃ peer ∈ peers, id = "flux:" ++ peer.peerId) (now : DateTime) :
    ∃ peer ∈ peers, id = "flux:" ++ peer.peerId
      ∧ ∃ node, (ingestFluxPeers now peers registry).getNode id = some node
        ∧ node.state = fluxState peer.connectivity := by
  induction peers generalizing registry with
  | nil =>
      obtain ⟨peer, hpeer, -⟩ := h
      cases hpeer
  | cons first peers ih =>
      by_cases hlater : ∃ peer ∈ peers, id = "flux:" ++ peer.peerId
      · obtain ⟨peer, hpeer, hid, hnode⟩ := ih (registry.registerNode _) hlater
        exact ⟨peer, List.mem_cons_of_mem _ hpeer, hid, hnode⟩
      · have hid : id = "flux:" ++ first.peerId := by
          obtain ⟨peer, hpeer, hid⟩ := h
          cases List.mem_cons.mp hpeer with
          | inl hfirst => exact hfirst ▸ hid
          | inr hrest => exact absurd ⟨peer, hrest, hid⟩ hlater
        refine ⟨first, List.mem_cons_self, hid, fluxNode now registry first, ?_, rfl⟩
        have hrest : ∀ peer ∈ peers, id ≠ "flux:" ++ peer.peerId :=
          fun peer hpeer hid => hlater ⟨peer, hpeer, hid⟩
        refine (getNode_ingestFluxPeers_unlisted hrest now).trans ?_
        rw [EcosystemRegistry.getNode_registerNode]
        exact if_pos hid

theorem getNode_ingestUdpPeer_other {peer : Peer} (hother : id ≠ peer.nodeId) :
    (ingestUdpPeer peer registry).getNode id
      = registry.getNode id := by
  rw [ingestUdpPeer]
  split
  · rw [EcosystemRegistry.getNode_registerNode]
    exact if_neg hother
  · rfl

/-- The loss of a peer, unless it is the local node. -/
theorem getNode_handleUdpPeerLost (registry : EcosystemRegistry) (lostId id : String) :
    (handleUdpPeerLost lostId registry).getNode id
      = (registry.getNode id).map fun node =>
          if id = lostId ∧ node.isLocal = false then node.withState .unavailable else node := by
  rw [handleUdpPeerLost]
  cases hlost : registry.getNode lostId with
  | none =>
      cases hnode : registry.getNode id with
      | none => rfl
      | some node =>
          have hne : id ≠ lostId := by
            rintro rfl
            rw [hlost] at hnode
            cases hnode
          rw [Option.map_some, if_neg fun h => hne h.1]
  | some lost =>
      have hkeyed := registry.keyed lostId lost hlost
      dsimp only
      by_cases hid : id = lostId
      · rw [hid]
        cases hlocal : lost.isLocal with
        | true =>
            rw [if_pos rfl, hlost, Option.map_some, hlocal]
            exact congrArg some (if_neg fun h => Bool.noConfusion h.2).symm
        | false =>
            rw [if_neg Bool.false_ne_true, EcosystemRegistry.getNode_registerNode, hlost,
              Option.map_some, hlocal]
            exact (if_pos hkeyed.symm).trans (congrArg some (if_pos ⟨rfl, rfl⟩).symm)
      · have hmap : (registry.getNode id).map (fun node =>
            if id = lostId ∧ node.isLocal = false then node.withState .unavailable else node)
              = registry.getNode id := by
          simp [hid]
        rw [hmap]
        split_ifs
        · rfl
        · rw [EcosystemRegistry.getNode_registerNode]
          exact if_neg fun h => hid (h.trans hkeyed)

end EcosystemDiscoveryService

/-! ### Runs -/

/-- An operation of the service; `ingest_flux_peers` with what the gateway answered. -/
inductive DiscoveryAction where
  | localNode (now : DateTime) (fabric : LocalFabric)
  | fluxPeers (now : DateTime) (peers : List FluxPeerInfo)
  | udpPeer (peer : Peer)
  | udpPeerLost (nodeId : String)

namespace EcosystemDiscoveryService

def step (self : LocalIdentity) (registry : EcosystemRegistry) : DiscoveryAction → EcosystemRegistry
  | .localNode now fabric => discoverLocalNode self now fabric registry
  | .fluxPeers now peers => ingestFluxPeers now peers registry
  | .udpPeer peer => ingestUdpPeer peer registry
  | .udpPeerLost nodeId => handleUdpPeerLost nodeId registry

end EcosystemDiscoveryService

end Shyam
