import Shyam.Discovery.Ecosystem
import Shyam.Discovery.Operations

/-!
# What the registry keeps

Six writers rebuild whole nodes. The local node has a UUID of its own, Flux peers have ids that are
no UUIDs, and UDP peers have other UUIDs, so each writer stays with its own nodes. A rebuilt node
takes over when it was first seen.
-/

namespace Shyam

open Python Transition

/-! ### Where a node comes from -/

inductive NodeOrigin where
  | localNode
  | fluxPeer
  | udpPeer
deriving DecidableEq, Repr

def NodeOrigin.ofId (identity : LocalIdentity) (id : String) : NodeOrigin :=
  if id = identity.nodeId then .localNode
  else if id.toList.take 5 = "flux:".toList then .fluxPeer
  else .udpPeer

/-- Who wrote the node; only Flux peers have its provider. -/
def DiscoveredNode.origin (node : DiscoveredNode) : NodeOrigin :=
  if node.isLocal then .localNode
  else if (node.providers.entries.get? "flux.peer").isSome then .fluxPeer
  else .udpPeer

/-! ### The writers -/

inductive RegistryAction where
  | discovery (action : DiscoveryAction)
  | touchNode (nodeId : String) (seenAt : DateTime)
  | reconcileStale (exceeds : DateTime → Bool)

namespace RegistryAction

/-- A UDP peer fits its schema and is not the local node. -/
def Admitted (identity : LocalIdentity) : RegistryAction → Prop
  | .discovery (.udpPeer peer) => peer.Valid ∧ peer.nodeId ≠ identity.nodeId
  | _ => True

def step (identity : LocalIdentity) (registry : EcosystemRegistry) :
    RegistryAction → EcosystemRegistry
  | .discovery action => EcosystemDiscoveryService.step identity registry action
  | .touchNode nodeId seenAt => registry.touchNode nodeId seenAt
  | .reconcileStale exceeds => registry.reconcileStale exceeds

end RegistryAction

namespace EcosystemRegistry

variable {identity : LocalIdentity} {registry registry' : EcosystemRegistry}

/-- Every node is under an id of its origin, and the local node is there and available. -/
structure WellKept (identity : LocalIdentity) (registry : EcosystemRegistry) : Prop where
  origins : ∀ id node, registry.getNode id = some node → node.origin = NodeOrigin.ofId identity id
  available : ∃ node, registry.getNode identity.nodeId = some node ∧ node.state = .available

/-- No node gets lost, and none is first seen at another time. -/
def KeepsFirstSeen (registry registry' : EcosystemRegistry) : Prop :=
  ∀ id node, registry.getNode id = some node →
    ∃ node', registry'.getNode id = some node' ∧ node'.firstSeen = node.firstSeen

theorem KeepsFirstSeen.refl (registry : EcosystemRegistry) : KeepsFirstSeen registry registry :=
  fun _ node hnode => ⟨node, hnode, rfl⟩

theorem KeepsFirstSeen.trans {registry'' : EcosystemRegistry}
    (h : KeepsFirstSeen registry registry') (h' : KeepsFirstSeen registry' registry'') :
    KeepsFirstSeen registry registry'' := by
  intro id node hnode
  obtain ⟨node', hnode', hfirst⟩ := h id node hnode
  obtain ⟨node'', hnode'', hfirst'⟩ := h' id node' hnode'
  exact ⟨node'', hnode'', hfirst'.trans hfirst⟩

/-- A step that keeps every node in its place, its origin and when it was first seen. -/
structure Keeps (identity : LocalIdentity) (registry registry' : EcosystemRegistry) : Prop where
  wellKept : WellKept identity registry'
  firstSeen : KeepsFirstSeen registry registry'

/-! ### Writing one node -/

/-- A rebuilt node of the right origin, seen first when its predecessor was. -/
theorem WellKept.registerNode (h : WellKept identity registry)
    {node : DiscoveredNode} (seen : DateTime)
    (horigin : node.origin = NodeOrigin.ofId identity node.nodeId)
    (havailable : node.nodeId = identity.nodeId → node.state = .available)
    (hfirst : node.firstSeen
      = ((registry.getNode node.nodeId).map DiscoveredNode.firstSeen).getD seen) :
    Keeps identity registry (registry.registerNode node) where
  wellKept := by
    constructor
    · intro id n hn
      rw [getNode_registerNode] at hn
      split_ifs at hn with hid
      · cases hn
        rw [hid, horigin]
      · exact h.origins id n hn
    · rw [getNode_registerNode]
      split_ifs with hid
      · exact ⟨node, rfl, havailable hid.symm⟩
      · exact h.available
  firstSeen := by
    intro id n hn
    rw [getNode_registerNode]
    split_ifs with hid
    · rw [← hid, hn, Option.map_some, Option.getD_some] at hfirst
      exact ⟨node, rfl, hfirst⟩
    · exact ⟨n, hn, rfl⟩

/-- A node that changes in its state or in when it was last seen. -/
theorem WellKept.mapNode (h : WellKept identity registry)
    {f : String → DiscoveredNode → DiscoveredNode}
    (hnodes : ∀ id, registry'.getNode id = (registry.getNode id).map (f id))
    (hlocal : ∀ id node, (f id node).isLocal = node.isLocal)
    (hproviders : ∀ id node, (f id node).providers = node.providers)
    (hfirst : ∀ id node, (f id node).firstSeen = node.firstSeen)
    (havailable : ∀ id node, node.isLocal = true → node.state = .available →
      (f id node).state = .available) : Keeps identity registry registry' where
  wellKept := by
    constructor
    · intro id n hn
      rw [hnodes, Option.map_eq_some_iff] at hn
      obtain ⟨node, hnode, rfl⟩ := hn
      rw [DiscoveredNode.origin, hlocal, hproviders]
      exact h.origins id node hnode
    · obtain ⟨node, hnode, hstate⟩ := h.available
      have horigin := h.origins identity.nodeId node hnode
      have hisLocal : node.isLocal = true := by
        rw [NodeOrigin.ofId, if_pos rfl, DiscoveredNode.origin] at horigin
        split_ifs at horigin with hisLocal
        exact hisLocal
      refine ⟨f identity.nodeId node, ?_, havailable identity.nodeId node hisLocal hstate⟩
      rw [hnodes, hnode]
      rfl
  firstSeen := by
    intro id node hnode
    refine ⟨f id node, ?_, hfirst id node⟩
    rw [hnodes, hnode]
    rfl

/-! ### Each writer -/

theorem ofId_flux (hself : IsUuidText identity.nodeId) (peerId : String) :
    NodeOrigin.ofId identity ("flux:" ++ peerId) = .fluxPeer := by
  rw [NodeOrigin.ofId, if_neg (hself.ne_flux peerId).symm, String.toList_append]
  exact if_pos rfl

theorem ofId_udp {id : String} (hid : IsUuidText id) (hother : id ≠ identity.nodeId) :
    NodeOrigin.ofId identity id = .udpPeer := by
  rw [NodeOrigin.ofId, if_neg hother]
  apply if_neg
  intro hflux
  have hsplit : id = "flux:" ++ String.ofList (id.toList.drop 5) := by
    rw [← String.toList_inj, String.toList_append, ← hflux, String.toList_ofList,
      List.take_append_drop]
  exact hid.ne_flux _ hsplit

theorem WellKept.localNode (h : WellKept identity registry) (now : DateTime)
    (fabric : LocalFabric) :
    Keeps identity registry
      (EcosystemDiscoveryService.discoverLocalNode identity now fabric registry) := by
  apply h.registerNode now
  · exact (if_pos rfl : NodeOrigin.ofId identity identity.nodeId = _).symm
  · exact fun _ => rfl
  · rfl

theorem WellKept.fluxPeers (h : WellKept identity registry) (hself : IsUuidText identity.nodeId)
    (now : DateTime) (peers : List FluxPeerInfo) :
    Keeps identity registry (EcosystemDiscoveryService.ingestFluxPeers now peers registry) := by
  induction peers generalizing registry with
  | nil => exact ⟨h, .refl registry⟩
  | cons peer peers ih =>
      have hpeer : Keeps identity registry
          (registry.registerNode (EcosystemDiscoveryService.fluxNode now registry peer)) := by
        apply h.registerNode now
        · exact (ofId_flux hself peer.peerId).symm
        · intro hlocal
          exact absurd hlocal.symm (hself.ne_flux peer.peerId)
        · rfl
      have hrest := ih hpeer.wellKept
      exact ⟨hrest.wellKept, hpeer.firstSeen.trans hrest.firstSeen⟩

theorem get?_udpProviders (peer : Peer) (protocolVersion : String) (announced : Dict PyValue) :
    (EcosystemDiscoveryService.udpProviders peer protocolVersion announced).entries.get? "flux.peer"
      = none := by
  rw [EcosystemDiscoveryService.udpProviders]
  split_ifs <;> simp [ProviderMap.put, ProviderMap.empty, EcosystemDiscoveryService.peerProvider,
    EcosystemDiscoveryService.zaryaProvider]

theorem WellKept.udpPeer (h : WellKept identity registry) {peer : Peer} (hvalid : peer.Valid)
    (hother : peer.nodeId ≠ identity.nodeId) :
    Keeps identity registry (EcosystemDiscoveryService.ingestUdpPeer peer registry) := by
  obtain ⟨nodeName, protocolVersion, announced, hingest⟩ :=
    EcosystemDiscoveryService.exists_ingestUdpPeer_eq hvalid
  rw [hingest]
  apply h.registerNode peer.discoveredAt
  · change _ = NodeOrigin.ofId identity peer.nodeId
    rw [ofId_udp hvalid.nodeId hother, DiscoveredNode.origin]
    change (if false = true then _ else if (Option.isSome (Dict.get? (ProviderMap.entries
      (EcosystemDiscoveryService.udpProviders peer protocolVersion announced)) "flux.peer")) then _
        else _) = _
    rw [get?_udpProviders]
    rfl
  · intro hlocal
    exact absurd hlocal hother
  · rfl

theorem WellKept.udpPeerLost (h : WellKept identity registry) (lostId : String) :
    Keeps identity registry (EcosystemDiscoveryService.handleUdpPeerLost lostId registry) := by
  apply h.mapNode (EcosystemDiscoveryService.getNode_handleUdpPeerLost registry lostId)
  · intro id node
    split_ifs <;> rfl
  · intro id node
    split_ifs <;> rfl
  · intro id node
    split_ifs <;> rfl
  · intro id node hlocal hstate
    rw [if_neg fun hlost => Bool.noConfusion (hlocal.symm.trans hlost.2)]
    exact hstate

theorem WellKept.touchNode (h : WellKept identity registry) (nodeId : String) (seenAt : DateTime) :
    Keeps identity registry (registry.touchNode nodeId seenAt) := by
  apply h.mapNode (f := fun id node => if id = nodeId then node.touched seenAt else node)
  · intro id
    rw [getNode_touchNode]
    split_ifs
    · rfl
    · exact Option.map_id'.symm
  · intro id node
    split_ifs <;> simp
  · intro id node
    split_ifs <;> simp
  · intro id node
    split_ifs <;> simp
  · intro id node _ hstate
    split_ifs
    · rw [DiscoveredNode.state_touched, hstate]
      rfl
    · exact hstate

theorem WellKept.reconcileStale (h : WellKept identity registry) (exceeds : DateTime → Bool) :
    Keeps identity registry (registry.reconcileStale exceeds) := by
  apply h.mapNode (fun id => getNode_reconcileStale registry id exceeds)
  · exact fun _ node => DiscoveredNode.isLocal_reconciled exceeds node
  · exact fun _ node => DiscoveredNode.providers_reconciled exceeds node
  · exact fun _ node => DiscoveredNode.firstSeen_reconciled exceeds node
  · intro _ node hlocal hstate
    rw [DiscoveredNode.state_reconciled, DiscoveredNode.goesStale, hlocal]
    exact hstate

theorem WellKept.step (h : WellKept identity registry) (hself : IsUuidText identity.nodeId)
    {action : RegistryAction} (hadmitted : action.Admitted identity) :
    Keeps identity registry (action.step identity registry) := by
  cases action with
  | discovery action =>
      cases action with
      | localNode now fabric => exact h.localNode now fabric
      | fluxPeers now peers => exact h.fluxPeers hself now peers
      | udpPeer peer => exact h.udpPeer hadmitted.1 hadmitted.2
      | udpPeerLost nodeId => exact h.udpPeerLost nodeId
  | touchNode nodeId seenAt => exact h.touchNode nodeId seenAt
  | reconcileStale exceeds => exact h.reconcileStale exceeds

/-! ### Runs -/

theorem WellKept.run (h : WellKept identity registry) (hself : IsUuidText identity.nodeId)
    {actions : List RegistryAction} (hadmitted : ∀ action ∈ actions, action.Admitted identity) :
    Keeps identity registry (Transition.run (RegistryAction.step identity) registry actions) := by
  induction actions generalizing registry with
  | nil => exact ⟨h, .refl registry⟩
  | cons action actions ih =>
      rw [List.forall_mem_cons] at hadmitted
      have hfirst := h.step hself hadmitted.1
      have hrest := ih hfirst.wellKept hadmitted.2
      exact ⟨hrest.wellKept, hfirst.firstSeen.trans hrest.firstSeen⟩

theorem wellKept_start (identity : LocalIdentity) (now : DateTime) (fabric : LocalFabric) :
    WellKept identity (EcosystemDiscoveryService.discoverLocalNode identity now fabric .empty) := by
  have hnode (id : String) :
    (EcosystemDiscoveryService.discoverLocalNode identity now fabric .empty).getNode id
      = if id = identity.nodeId then
          some (EcosystemDiscoveryService.localNode identity now fabric .empty) else none :=
    getNode_registerNode .empty (EcosystemDiscoveryService.localNode identity now fabric .empty) id
  constructor
  · intro id node h
    rw [hnode] at h
    split_ifs at h with hid
    cases h
    rw [NodeOrigin.ofId, if_pos hid]
    rfl
  · exact ⟨_, (hnode identity.nodeId).trans (if_pos rfl), rfl⟩

theorem WellKept.isLocal_iff (h : WellKept identity registry) {id : String} {node : DiscoveredNode}
    (hnode : registry.getNode id = some node) : node.isLocal = true ↔ id = identity.nodeId := by
  have horigin := h.origins id node hnode
  rw [DiscoveredNode.origin, NodeOrigin.ofId] at horigin
  constructor
  · intro hlocal
    rw [if_pos hlocal] at horigin
    by_contra hother
    rw [if_neg hother] at horigin
    split_ifs at horigin
  · intro hid
    rw [if_pos hid] at horigin
    by_contra hlocal
    rw [if_neg hlocal] at horigin
    split_ifs at horigin

/-- **The registry's invariants.** After any writes that follow the discovery of the local node,
nodes and providers stand under their ids, the local node is the only one that is local and it is
available, every node is of the origin that its id tells, and later writes keep it, its origin and
when it was first seen. -/
theorem registry_invariants (identity : LocalIdentity) (hself : IsUuidText identity.nodeId)
    (now : DateTime) (fabric : LocalFabric) (actions later : List RegistryAction)
    (hadmitted : ∀ action ∈ actions ++ later, action.Admitted identity) :
    let registry := Transition.run (RegistryAction.step identity)
      (EcosystemDiscoveryService.discoverLocalNode identity now fabric .empty) actions
    (∀ id node, registry.getNode id = some node → node.nodeId = id
        ∧ ∀ providerId provider, node.providers.entries.get? providerId = some provider →
            provider.providerId = providerId)
      ∧ (∃ node, registry.getNode identity.nodeId = some node ∧ node.isLocal = true
        ∧ node.state = .available)
      ∧ (∀ id node, registry.getNode id = some node → (node.isLocal = true ↔ id = identity.nodeId))
      ∧ (∀ id node, registry.getNode id = some node → node.origin = NodeOrigin.ofId identity id
        ∧ ∃ node', (Transition.run (RegistryAction.step identity) registry later).getNode id
          = some node'
          ∧ node'.firstSeen = node.firstSeen ∧ node'.origin = node.origin) := by
  intro registry
  rw [List.forall_mem_append] at hadmitted
  have h : WellKept identity registry :=
    ((wellKept_start identity now fabric).run hself hadmitted.1).wellKept
  have hlater := h.run hself hadmitted.2
  refine ⟨?_, ?_, fun id node hnode => h.isLocal_iff hnode, ?_⟩
  · exact fun id node hnode => ⟨registry.keyed id node hnode, node.providers.keyed⟩
  · obtain ⟨node, hnode, hstate⟩ := h.available
    exact ⟨node, hnode, (h.isLocal_iff hnode).mpr rfl, hstate⟩
  · intro id node hnode
    obtain ⟨node', hnode', hfirst⟩ := hlater.firstSeen id node hnode
    have horigin := h.origins id node hnode
    exact ⟨horigin, node', hnode', hfirst,
      (hlater.wellKept.origins id node' hnode').trans horigin.symm⟩

def firstIdentity : LocalIdentity where
  nodeId := uuidText 1
  nodeName := "desk"

def secondPeer : Peer where
  nodeId := uuidText 2
  nodeName := .str "laptop"
  address := "10.0.0.2"
  port := .int 54321
  protocolVersion := .str "0.2.0"
  discoveredAt := .epoch
  lastSeen := .epoch
  metadata := .dict []

/-- A UDP peer and a Flux peer come, everything goes stale, both nodes are touched and lost. -/
def firstWrites : List RegistryAction :=
  [.discovery (.udpPeer secondPeer), .discovery (.fluxPeers .epoch [{ peerId := "p1" }]),
    .reconcileStale fun _ => true, .touchNode (uuidText 1) .epoch, .touchNode (uuidText 2) .epoch,
    .discovery (.udpPeerLost (uuidText 1)), .discovery (.udpPeerLost (uuidText 2))]

theorem admitted_firstWrites : ∀ action ∈ firstWrites, action.Admitted firstIdentity := by
  have hpeer : secondPeer.Valid := ⟨⟨2, rfl⟩, ⟨_, rfl⟩, ⟨_, rfl⟩, ⟨_, rfl⟩, ⟨_, rfl⟩⟩
  have hother : secondPeer.nodeId ≠ firstIdentity.nodeId := by
    decide
  simp [firstWrites, RegistryAction.Admitted, hpeer, hother]

theorem registry_invariants_firstWrites :
    let registry := Transition.run (RegistryAction.step firstIdentity)
      (EcosystemDiscoveryService.discoverLocalNode firstIdentity .epoch {} .empty) firstWrites
    ∃ node, registry.getNode (uuidText 1) = some node ∧ node.isLocal = true
      ∧ node.state = .available :=
  (registry_invariants firstIdentity ⟨1, rfl⟩ .epoch {} firstWrites []
    ((List.append_nil firstWrites).symm ▸ admitted_firstWrites)).2.1

end EcosystemRegistry

end Shyam
