import Shyam.Proof.Announcements
import Shyam.Proof.PeerSchema
import Shyam.Proof.RegistryInvariants

/-!
# Provenance of announced nodes

A node of a UDP peer is built from one datagram. What the sender announces as metadata is merged
over where the datagram came from, so the provenance holds as long as it does not name the same
keys. The provider of the peer keeps it in any case, that of Zarya has only its URL.
-/

namespace Shyam

open Python Transition

/-- The announced metadata leaves the provenance alone. -/
def Announcement.LeavesProvenance (fields : List (String × PyValue)) : Prop :=
  ∀ key ∈ ["origin", "address", "port"], (dictOf fields).get? key = none

/-- What a node built from an announcement shows of it. -/
structure DiscoveredNode.Shows (node : DiscoveredNode) (address : String) (port : Int)
    (fields : List (String × PyValue)) : Prop where
  peerProvider : ∃ provider, node.providers.entries.get? "shyam.peer" = some provider
    ∧ provider.metadata.get? "address" = some (.str address)
    ∧ provider.metadata.get? "port" = some (.int port)
  otherProviders : ∀ id provider, node.providers.entries.get? id = some provider →
    id ≠ "shyam.peer" →
    id = "zarya.agent" ∧ provider.metadata
      = (∅ : Dict PyValue).set "zarya_url" ((dictOf fields).getD "zarya_url" .none)
  metadata : Announcement.LeavesProvenance fields →
    node.metadata.get? "origin" = some (.str "udp_broadcast")
      ∧ node.metadata.get? "address" = some (.str address)
      ∧ node.metadata.get? "port" = some (.int port)

namespace DiscoveryService

variable {rules : DiscoveryRules} {self : LocalIdentity} {now : DateTime} {payload : Option PyValue}
  {remoteIp : String} {a : Announcement} {s : DiscoveryState} {peer : Peer}

/-! ### From the datagram to the node -/

/-- A peer has what was announced, as long as that is well typed. -/
theorem fields_of_heard (hport : ∀ i, rules.validatePort (.int i) = some (.int i))
    (htyped : a.WellTyped) {passedOn : Bool} (h : heard rules now a s = some (peer, passedOn)) :
    peer.nodeName = a.nodeName ∧ peer.address = a.address ∧ peer.port = a.port
      ∧ peer.protocolVersion = a.protocolVersion ∧ peer.metadata = a.metadata := by
  rw [heard] at h
  split at h
  · obtain ⟨new, hnew, heq⟩ := Option.map_eq_some_iff.mp h
    cases heq
    obtain ⟨i, hi⟩ := htyped.port
    rw [newPeer, hi, hport] at hnew
    split at hnew
    · rename_i hnodeName hvalid hprotocolVersion hmetadata
      cases hvalid
      cases hnew
      exact ⟨hnodeName.symm, rfl, hi.symm, hprotocolVersion.symm, hmetadata.symm⟩
    · cases hnew
  · cases h
    exact ⟨rfl, rfl, rfl, rfl, rfl⟩

/-- So its ingestion registers a node. -/
theorem ingest_of_heard (hport : ∀ i, rules.validatePort (.int i) = some (.int i))
    (htyped : a.WellTyped) {passedOn : Bool} (h : heard rules now a s = some (peer, passedOn))
    (registry : EcosystemRegistry) :
    ∃ nodeName protocolVersion fields, a.metadata = .dict fields
      ∧ EcosystemDiscoveryService.ingestUdpPeer peer registry = registry.registerNode
        (EcosystemDiscoveryService.udpNode registry peer nodeName protocolVersion
          (dictOf fields)) := by
  obtain ⟨hnodeName, -, -, hprotocolVersion, hmetadata⟩ := fields_of_heard hport htyped h
  obtain ⟨nodeName, hname⟩ := htyped.nodeName
  obtain ⟨protocolVersion, hversion⟩ := htyped.protocolVersion
  obtain ⟨fields, hfields⟩ := htyped.metadata
  refine ⟨nodeName, protocolVersion, fields, hfields, ?_⟩
  rw [EcosystemDiscoveryService.ingestUdpPeer, hnodeName, hname, hprotocolVersion,
    hversion, hmetadata, hfields]

theorem shows_udpNode (registry : EcosystemRegistry) (peer : Peer)
    (nodeName protocolVersion : String) {port : Int} (hport : peer.port = .int port)
    (fields : List (String × PyValue)) :
    (EcosystemDiscoveryService.udpNode registry peer nodeName protocolVersion (dictOf fields)).Shows
      peer.address port fields where
  peerProvider := by
    refine ⟨EcosystemDiscoveryService.peerProvider peer protocolVersion, ?_, ?_, ?_⟩
    · exact (Dict.get?_set _ _ _ _).trans (if_pos rfl)
    · simp [EcosystemDiscoveryService.peerProvider]
    · simp [EcosystemDiscoveryService.peerProvider, hport]
  otherProviders id provider hprovider hother := by
    change (EcosystemDiscoveryService.udpProviders peer protocolVersion
      (dictOf fields)).entries.get? id = some provider at hprovider
    have hpeer : id ≠ (EcosystemDiscoveryService.peerProvider peer protocolVersion).providerId :=
      hother
    rw [EcosystemDiscoveryService.udpProviders, ProviderMap.put, Dict.get?_set,
      if_neg hpeer] at hprovider
    split_ifs at hprovider
    · rw [ProviderMap.put, Dict.get?_set] at hprovider
      split_ifs at hprovider with hid
      · cases hprovider
        exact ⟨hid, rfl⟩
      · cases hprovider
    · cases hprovider
  metadata hleaves := by
    have horigin := hleaves "origin" (by decide)
    have haddress := hleaves "address" (by decide)
    have hannounced := hleaves "port" (by decide)
    change (EcosystemDiscoveryService.udpMetadata peer (dictOf fields)).get? _ = _
      ∧ (EcosystemDiscoveryService.udpMetadata peer (dictOf fields)).get? _ = _
      ∧ (EcosystemDiscoveryService.udpMetadata peer (dictOf fields)).get? _ = _
    simp [EcosystemDiscoveryService.udpMetadata, horigin, haddress, hannounced, hport]

/-! ### The nodes of a run -/

/-- The node was built from one of the datagrams. -/
def BuiltFrom (rules : DiscoveryRules) (actions : List NetworkAction) (id : String)
    (node : DiscoveredNode) :
    Prop :=
  ∃ now payload remoteIp a port fields, NetworkAction.datagram now payload remoteIp ∈ actions
    ∧ parse rules payload remoteIp = some a ∧ a.nodeId = id ∧ a.port = .int port
    ∧ a.metadata = .dict fields ∧ node.Shows remoteIp port fields

/-- The announcements that the datagrams hold are well typed. -/
def WellFormed (rules : DiscoveryRules) (actions : List NetworkAction) : Prop :=
  ∀ now payload remoteIp a, NetworkAction.datagram now payload remoteIp ∈ actions →
    parse rules payload remoteIp = some a → a.WellTyped

variable {actions : List NetworkAction} {id : String} {node : DiscoveredNode}

theorem BuiltFrom.withState (h : BuiltFrom rules actions id node) (state : EcosystemNodeState) :
    BuiltFrom rules actions id (node.withState state) := by
  obtain ⟨now, payload, remoteIp, a, port, fields, hmem, hparse, hid, hport, hfields, hshows⟩ := h
  exact ⟨now, payload, remoteIp, a, port, fields, hmem, hparse, hid, hport, hfields,
    hshows.peerProvider, hshows.otherProviders, hshows.metadata⟩

theorem builtFrom_ingest (hport : ∀ i, rules.validatePort (.int i) = some (.int i))
    (hwell : WellFormed rules actions) {action : NetworkAction} (hmem : action ∈ actions)
    (hheartbeat : heartbeat rules self id s action = some (peer, true))
    (hnode : (EcosystemDiscoveryService.ingestUdpPeer peer s.registry).getNode id = some node) :
    BuiltFrom rules actions id node := by
  obtain ⟨now, payload, remoteIp, rfl, hreceived, hid⟩ := heartbeat_eq_some_iff.mp hheartbeat
  obtain ⟨a, hparse, -, hheard⟩ := received_eq_some_iff.mp hreceived
  have htyped := hwell now payload remoteIp a hmem hparse
  obtain ⟨-, haddress, hpeerPort, -, -⟩ := fields_of_heard hport htyped hheard
  obtain ⟨port, hi⟩ := htyped.port
  obtain ⟨nodeName, protocolVersion, fields, hfields, hingest⟩ :=
    ingest_of_heard hport htyped hheard s.registry
  rw [hingest, EcosystemRegistry.getNode_registerNode, ← hid] at hnode
  obtain rfl := Option.some.inj ((if_pos rfl).symm.trans hnode)
  refine ⟨now, payload, remoteIp, a, port, fields, hmem, hparse, ?_, hi, hfields, ?_⟩
  · exact (nodeId_of_heard hheard).symm.trans hid
  · rw [← (parse_eq_some hparse).2, ← haddress]
    exact shows_udpNode s.registry peer nodeName protocolVersion (hpeerPort.trans hi) fields

theorem builtFrom_step (hport : ∀ i, rules.validatePort (.int i) = some (.int i))
    (hwell : WellFormed rules actions) (hid : IsUuidText id) (hother : id ≠ self.nodeId)
    {action : NetworkAction} (hmem : action ∈ actions)
    (hbuilt : ∀ node, s.registry.getNode id = some node → BuiltFrom rules actions id node)
    (hnode : (step rules self s action).registry.getNode id = some node) :
    BuiltFrom rules actions id node := by
  by_cases hpassedOn : ∃ peer, heartbeat rules self id s action = some (peer, true)
  · obtain ⟨peer, hheartbeat⟩ := hpassedOn
    rw [registry_step_of_passedOn hheartbeat] at hnode
    exact builtFrom_ingest hport hwell hmem hheartbeat hnode
  · obtain ⟨before, hbefore, rfl | rfl⟩ :=
      getNode_step_of_quiet hid hother (not_exists.mp hpassedOn) hnode
    · exact hbuilt node hbefore
    · exact (hbuilt before hbefore).withState .unavailable

/-- **Provenance.** Every node of a UDP peer was built from one datagram: its peer provider carries
the address that the datagram came from and the announced port, and so does its metadata, with its
origin, unless the announced metadata names one of these keys. -/
theorem node_builtFrom_datagram (rules : DiscoveryRules)
    (hport : ∀ i, rules.validatePort (.int i) = some (.int i)) (self : LocalIdentity)
    (actions : List NetworkAction) (hwell : WellFormed rules actions) (id : String)
    (hid : IsUuidText id) (hother : id ≠ self.nodeId) (node : DiscoveredNode)
    (hnode : (run (step rules self) {} actions).registry.getNode id = some node) :
    BuiltFrom rules actions id node := by
  have hrun : Along (step rules self) (fun _ action => action ∈ actions) {} actions :=
    along_of_forall_mem fun _ h => h
  have hbuilt := hrun.invariant
    (I := fun s => ∀ node, s.registry.getNode id = some node → BuiltFrom rules actions id node)
    (fun _ _ hbuilt hmem _ hnode => builtFrom_step hport hwell hid hother hmem hbuilt hnode)
    (fun _ hnode => nomatch hnode)
  exact hbuilt node hnode

/-! ### A laptop says where it is -/

def zaryaFields (address : String) : List (String × PyValue) :=
  [("zarya_url", .str "http://10.0.0.2:8000"), (address, .str "10.0.0.9")]

def zaryaAnnouncement (address : String) : Announcement where
  nodeId := uuidText 2
  nodeName := .str "laptop"
  address := "10.0.0.2"
  port := .int 54321
  protocolVersion := .str "0.2.0"
  metadata := .dict (zaryaFields address)

def zaryaDatagram (address : String) : NetworkAction :=
  .datagram .epoch (some (.dict [("node_id", .str (uuidText 2)), ("node_name", .str "laptop"),
    ("port", .int 54321), ("metadata", .dict (zaryaFields address))])) "10.0.0.2"

theorem node_builtFrom_datagram_zarya :
    ∃ node, (run (step strictRules ⟨uuidText 1, "desk", "0.2.0"⟩) {}
        [zaryaDatagram "gateway"]).registry.getNode (uuidText 2) = some node
      ∧ BuiltFrom strictRules [zaryaDatagram "gateway"] (uuidText 2) node := by
  have hwell : WellFormed strictRules [zaryaDatagram "gateway"] := by
    intro now payload remoteIp a hmem hparse
    cases List.mem_singleton.mp hmem
    cases hparse.symm.trans (rfl : _ = some (zaryaAnnouncement "gateway"))
    exact ⟨⟨_, rfl⟩, ⟨_, rfl⟩, ⟨_, rfl⟩, ⟨_, rfl⟩⟩
  refine ⟨_, rfl, ?_⟩
  exact node_builtFrom_datagram strictRules (fun _ => rfl)
    ⟨uuidText 1, "desk", "0.2.0"⟩ _ hwell _ ⟨2, rfl⟩
    (by decide) _ rfl

/-- It announces the address of another. Zarya's provider has no address at all. -/
theorem node_address_is_announced :
    let registry := (run (step strictRules ⟨uuidText 1, "desk", "0.2.0"⟩) {}
      [zaryaDatagram "address"]).registry
    ∃ node zarya, registry.getNode (uuidText 2) = some node
      ∧ node.metadata.get? "address" = some (.str "10.0.0.9")
      ∧ node.providers.entries.get? "zarya.agent" = some zarya
      ∧ zarya.metadata.get? "address" = none :=
  ⟨_, _, rfl, rfl, rfl, rfl⟩

end DiscoveryService

end Shyam
