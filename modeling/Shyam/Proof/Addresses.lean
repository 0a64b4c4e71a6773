import Shyam.Proof.WiredRuns

/-!
# Does continuity address the node it selected?

A remote node that offers to continue work has announced its addresses, and everything that a run
sends goes to them. Where the node announced Zarya by the flag alone there is no URL, and the
provider falls back on the local instance, to which a URL may lead as well.
-/

namespace Shyam

open Python Interaction Continuity

/-! ### What a remote node has announced -/

namespace DiscoveredNode

/-- An address in the node's metadata. An empty one counts as missing. -/
def address (node : DiscoveredNode) (key : String) : Option String :=
  match node.metadata.get? key with
  | some (.str s) => orElse (some s) none
  | _ => none

def fluxPeerId (node : DiscoveredNode) : String := (node.address "flux_peer_id").getD node.nodeId

def zaryaUrl (node : DiscoveredNode) : Option String := node.address "zarya_url"

/-- Whoever offers to continue work is the provider that came with the node's announcement. -/
def Announces (node : DiscoveredNode) : Prop :=
  ∀ provider cap, node.providers.entries.get? provider.providerId = some provider →
    cap ∈ provider.capabilities → cap.capabilityId = "zarya.work.continue" →
    ∃ peer announced, node.metadata = EcosystemDiscoveryService.udpMetadata peer announced
      ∧ provider = EcosystemDiscoveryService.zaryaProvider peer announced

end DiscoveredNode

namespace EcosystemRegistry

def RemotesAnnounce (registry : EcosystemRegistry) : Prop :=
  ∀ id node, registry.getNode id = some node → node.isLocal = false → node.Announces

theorem RemotesAnnounce.registerNode {registry : EcosystemRegistry} {node : DiscoveredNode}
    (h : registry.RemotesAnnounce) (hnode : node.isLocal = false → node.Announces) :
    (registry.registerNode node).RemotesAnnounce := by
  intro id node' hget
  rw [getNode_registerNode] at hget
  split_ifs at hget
  · cases hget
    exact hnode
  · exact h id node' hget

end EcosystemRegistry

namespace ProviderMap

@[simp] theorem get?_put (m : ProviderMap) (provider : DiscoveredProvider) (id : String) :
    (m.put provider).entries.get? id
      = if id = provider.providerId then some provider else m.entries.get? id :=
  Dict.get?_set m.entries provider.providerId provider id

@[simp] theorem get?_empty (id : String) : ProviderMap.empty.entries.get? id = none := rfl

end ProviderMap

namespace EcosystemDiscoveryService

variable {registry : EcosystemRegistry} {now : DateTime} {peer : Peer} {announced : Dict PyValue}
  {nodeName protocolVersion : String}

theorem announces_fluxNode (fluxPeer : FluxPeerInfo) :
    (fluxNode now registry fluxPeer).Announces := by
  intro provider cap hprovider hcap hid
  simp only [fluxNode, ProviderMap.get?_put, ProviderMap.get?_empty] at hprovider
  split_ifs at hprovider
  cases hprovider
  rw [fluxProvider, List.mem_singleton] at hcap
  rw [hcap, fluxCapability] at hid
  simp at hid

theorem announces_udpNode :
    (udpNode registry peer nodeName protocolVersion announced).Announces := by
  intro provider cap hprovider hcap hid
  refine ⟨peer, announced, rfl, ?_⟩
  simp only [udpNode, udpProviders, ProviderMap.get?_put] at hprovider
  split_ifs at hprovider with hpeer hzarya
  · cases hprovider
    rw [peerProvider, List.mem_singleton] at hcap
    rw [hcap, inspectCapability] at hid
    simp at hid
  · rw [ProviderMap.get?_put, ProviderMap.get?_empty] at hprovider
    split_ifs at hprovider
    cases hprovider
    rfl
  · rw [ProviderMap.get?_empty] at hprovider
    cases hprovider

theorem remotesAnnounce_ingestFluxPeers (peers : List FluxPeerInfo) (h : registry.RemotesAnnounce) :
    (ingestFluxPeers now peers registry).RemotesAnnounce := by
  induction peers generalizing registry with
  | nil => exact h
  | cons fluxPeer peers ih => exact ih (h.registerNode fun _ => announces_fluxNode fluxPeer)

theorem remotesAnnounce_step {self : LocalIdentity} (a : DiscoveryAction)
    (h : registry.RemotesAnnounce) : (step self registry a).RemotesAnnounce := by
  cases a with
  | localNode now fabric => exact h.registerNode fun hremote => by cases hremote
  | fluxPeers now peers => exact remotesAnnounce_ingestFluxPeers peers h
  | udpPeer peer =>
      rw [step, ingestUdpPeer]
      split
      · exact h.registerNode fun _ => announces_udpNode
      · exact h
  | udpPeerLost nodeId =>
      rw [step, handleUdpPeerLost]
      split
      · rename_i node hnode
        split_ifs with hlocal
        · exact h
        · exact h.registerNode fun hremote => h nodeId node hnode hremote
      · exact h

theorem remotesAnnounce_run (self : LocalIdentity) (actions : List DiscoveryAction) :
    (Transition.run (step self) .empty actions).RemotesAnnounce := by
  have hempty : EcosystemRegistry.empty.RemotesAnnounce := by
    intro id node hget
    cases hget
  exact Transition.run_of_invariant (fun _ a h => remotesAnnounce_step a h) actions hempty

end EcosystemDiscoveryService

/-! ### The addresses of a target -/

namespace Continuity

variable {errorText : PyValue → PyValue → String} {c : Navigation.Candidate}
  {made : ContinuityTarget} {node : DiscoveredNode} {provider : DiscoveredProvider}
  {cap : DiscoveredCapability}

theorem strOr_eq (a : Option String) (b : String) : strOr a b = (orElse a none).getD b := by
  rw [strOr]
  cases a with
  | none => rfl
  | some s => by_cases hs : s = "" <;> simp [orElse, hs]

theorem pyOr_self (v : PyValue) : pyOr v v = v := ite_self v

/-- A candidate's own metadata holds no address, so the provider's counts and then the node's. -/
theorem metaAddress_mergedMetadata {key : String} (hnode : key ≠ "node")
    (hprovider : key ≠ "provider") :
    metaAddress (Navigation.mergedMetadata node provider) key
      = pyOr (provider.metadata.getD key .none) (node.metadata.getD key .none) := by
  have hown : metaGet (Navigation.mergedMetadata node provider).entries key = .none := by
    change ((Navigation.mergedMetadata node provider).get? key).getD .none = .none
    simp [Navigation.mergedMetadata, hnode, hprovider]
  have hproviderDict : metaDict (Navigation.mergedMetadata node provider) "provider"
      = provider.metadata.entries := by
    simp [metaDict, Navigation.mergedMetadata]
  have hnodeDict : metaDict (Navigation.mergedMetadata node provider) "node"
      = node.metadata.entries := by
    simp [metaDict, Navigation.mergedMetadata]
  rw [metaAddress, hown, hproviderDict, hnodeDict]
  rfl

theorem orElse_validated {key : String} {validated : Option String}
    (h : validateOptionalStr (node.metadata.getD key .none) = some validated) :
    orElse validated none = node.address key := by
  rw [Dict.getD] at h
  rw [DiscoveredNode.address]
  cases hfound : node.metadata.get? key with
  | none =>
      rw [hfound] at h
      cases h
      rfl
  | some value =>
      rw [hfound] at h
      cases value with
      | none | str =>
          cases h
          rfl
      | _ => cases h

variable {peer : Peer} {announced : Dict PyValue}

/-- The addresses of a target are those that its node has announced. -/
theorem makeTarget_addresses
    (hmetadata : node.metadata = EcosystemDiscoveryService.udpMetadata peer announced)
    (hprovider : provider = EcosystemDiscoveryService.zaryaProvider peer announced)
    (hmade : makeTarget errorText (Navigation.Candidate.of node provider cap).toNavigationCandidate
      = .ok made) :
    peerOf made = node.fluxPeerId ∧ orElse made.zaryaUrl none = node.zaryaUrl := by
  have hflux : metaAddress (Navigation.mergedMetadata node provider) "flux_peer_id"
      = node.metadata.getD "flux_peer_id" .none := by
    rw [metaAddress_mergedMetadata (by decide) (by decide), hprovider]
    rfl
  have hzarya : metaAddress (Navigation.mergedMetadata node provider) "zarya_url"
      = node.metadata.getD "zarya_url" .none := by
    have hsame : provider.metadata.getD "zarya_url" .none
        = node.metadata.getD "zarya_url" .none := by
      rw [hmetadata, hprovider]
      simp [EcosystemDiscoveryService.zaryaProvider,
        EcosystemDiscoveryService.udpMetadata, Dict.getD]
    rw [metaAddress_mergedMetadata (by decide) (by decide), hsame, pyOr_self]
  have hmetadataOf : (Navigation.Candidate.of node provider cap).metadata
      = Navigation.mergedMetadata node provider := rfl
  simp only [makeTarget, hmetadataOf, hflux, hzarya] at hmade
  split at hmade
  · rename_i flux zarya hvalidFlux hvalidZarya
    cases hmade
    constructor
    · rw [peerOf, strOr_eq, orElse_validated hvalidFlux]
      rfl
    · exact orElse_validated hvalidZarya
  · cases hmade

end Continuity

namespace ShyamRuntime

variable {ι : Type} {runtime : ShyamRuntime} {instanceAt : String → ι} {codec : RecordCodec}
  {now : DateTime} {request : ContinuityRequest} {errorText : PyValue → PyValue → String}

/-- While a remote node is the target, everything goes to the addresses of that node, and its URL
does not lead to the local instance. `instanceAt` says which Zarya a URL leads to. -/
def AddressesTarget (runtime : ShyamRuntime) (instanceAt : String → ι)
    (run : Past EcosystemSnapshot) : Prop :=
  ∀ before e after session target node, run = before ++ e :: after →
    (stored before).getLast? = some session → session.target = some target →
    runtime.ecosystemRegistry.getNode target.nodeId = some node → node.isLocal = false →
      (∀ peerId artifactPath, e.op = .transfer peerId artifactPath → peerId = node.fluxPeerId)
        ∧ ∀ portableWork sourceDeviceId id targetUrl,
            e.op = .continueWork portableWork sourceDeviceId id targetUrl →
            ∃ url, node.zaryaUrl = some url
              ∧ runtime.zaryaProvider.clientFor targetUrl = .ok (.target url)
              ∧ instanceAt (ZaryaClient.target url).baseUrl
                ≠ instanceAt runtime.zaryaProvider.baseUrl

/-- The first choice is a trusted remote node without a URL, or with one that leads to the local
instance. -/
def Unaddressed (runtime : ShyamRuntime) (instanceAt : String → ι)
    (codec : RecordCodec) (now : DateTime) (errorText : PyValue → PyValue → String)
    (request : ContinuityRequest) : Prop :=
  ∃ c made node, runtime.FirstChoice request c ∧ runtime.Trusts codec now c.nodeId
    ∧ makeTarget errorText c.toNavigationCandidate = .ok made
    ∧ runtime.ecosystemRegistry.getNode c.nodeId = some node ∧ node.isLocal = false
    ∧ ∀ url, node.zaryaUrl = some url →
      instanceAt (ZaryaClient.target url).baseUrl = instanceAt runtime.zaryaProvider.baseUrl

theorem addresses_of_firstChoice {c : Navigation.Candidate} {made : ContinuityTarget}
    {node : DiscoveredNode} (hremotes : runtime.ecosystemRegistry.RemotesAnnounce)
    (hfirst : runtime.FirstChoice request c)
    (hmade : makeTarget errorText c.toNavigationCandidate = .ok made)
    (hnode : runtime.ecosystemRegistry.getNode c.nodeId = some node)
    (hremote : node.isLocal = false) :
    peerOf made = node.fluxPeerId ∧ orElse made.zaryaUrl none = node.zaryaUrl := by
  obtain ⟨node', provider, cap, hget, hprovider, hcap, hid, rfl⟩ :=
    Navigation.mem_discoverCandidates.mp hfirst.mem
  obtain rfl : node' = node := Option.some.inj (hget.symm.trans hnode)
  obtain ⟨peer, announced, hmetadata, hannounced⟩ :=
    hremotes node'.nodeId node' hget hremote provider cap hprovider hcap hid
  exact makeTarget_addresses hmetadata hannounced hmade

theorem addressesTarget_of_addressed {gateways : Gateways} {service : ContinuityService}
    {continuityId : String} (hremotes : runtime.ecosystemRegistry.RemotesAnnounce)
    (h : ¬(Valid request ∧ runtime.Unaddressed instanceAt codec now errorText request)) :
    runtime.AddressesTarget instanceAt
      (runtime.continuityRun codec now gateways service errorText continuityId request) := by
  intro before e after session target node hrun hlast htarget hnode hremote
  have hsound :=
    service.requestContinuity_sound (runtime.collaborators codec now gateways) errorText
    continuityId request before e after hrun
  have haimed : ∀ target', Aimed errorText before target' → target' = target := by
    rintro target' ⟨session', hlast', htarget', -⟩
    obtain rfl : session = session' := Option.some.inj (hlast.symm.trans hlast')
    exact Option.some.inj (htarget'.symm.trans htarget)
  obtain ⟨op, answer⟩ := e
  constructor
  · rintro peerId artifactPath rfl
    obtain ⟨target', haimed', hpeer⟩ := hsound
    obtain rfl := haimed target' haimed'
    obtain ⟨c, made, verified, hfirst, hmade, rfl⟩ := firstChoice_of_aimed hrun haimed'
    change runtime.ecosystemRegistry.getNode made.nodeId = some node at hnode
    rw [makeTarget_nodeId hmade] at hnode
    rw [hpeer]
    exact (addresses_of_firstChoice hremotes hfirst hmade hnode hremote).1
  · rintro portableWork sourceDeviceId id targetUrl rfl
    obtain ⟨target', haimed', hurl⟩ := hsound
    obtain rfl := haimed target' haimed'
    obtain ⟨c, made, verified, hfirst, hmade, rfl⟩ := firstChoice_of_aimed hrun haimed'
    change runtime.ecosystemRegistry.getNode made.nodeId = some node at hnode
    rw [makeTarget_nodeId hmade] at hnode
    have hzarya := (addresses_of_firstChoice hremotes hfirst hmade hnode hremote).2
    obtain ⟨hvalid, candidate, peerId, done, hcleared⟩ := cleared_of_continueWork hrun
    have htrusts := trusts_of_cleared hrun hcleared hfirst
    have haway : ¬∀ url, node.zaryaUrl = some url →
        instanceAt (ZaryaClient.target url).baseUrl
          = instanceAt runtime.zaryaProvider.baseUrl := by
      intro hlocal
      exact h ⟨hvalid, c, made, node, hfirst, htrusts, hmade, hnode, hremote, hlocal⟩
    push Not at haway
    obtain ⟨url, hrecorded, haway⟩ := haway
    refine ⟨url, hrecorded, ZaryaProvider.clientFor_of_some ?_, haway⟩
    rw [hurl, orElse_orElse]
    exact hzarya.trans hrecorded

theorem exists_not_addressesTarget (hvalid : Valid request)
    (h : runtime.Unaddressed instanceAt codec now errorText request) (continuityId : String) :
    ¬runtime.AddressesTarget instanceAt
      (runtime.continuityRun codec now obligingGateways {} errorText continuityId request) := by
  obtain ⟨c, made, node, hfirst, htrusts, hmade, hnode, hremote, hlocal⟩ := h
  obtain ⟨before, answer, after, session, hrun, hlast, htarget⟩ :=
    handsOver_continuityRun errorText continuityId hvalid hfirst htrusts hmade
  rw [← makeTarget_nodeId hmade] at hnode
  intro haddresses
  obtain ⟨url, hurl, -, haway⟩ :=
    (haddresses before _ after session _ node hrun hlast htarget hnode hremote).2 _ _ _ _ rfl
  exact haway (hlocal url hurl)

/-- **The selected node is addressed.** In a registry that the discovery service has filled, every
run addresses the remote node it selects, and never the local instance in its place, if and only if
the request is turned down or the first choice is not a trusted remote node that announced no URL or
one of the local instance. -/
theorem continuityRun_addressesTarget_iff (self : LocalIdentity) (actions : List DiscoveryAction)
    (trust : TrustService) (zarya : ZaryaProvider) (instanceAt : String → ι)
    (codec : RecordCodec) (now : DateTime) (errorText : PyValue → PyValue → String)
    (request : ContinuityRequest) :
    let runtime : ShyamRuntime :=
      ⟨Transition.run (EcosystemDiscoveryService.step self) .empty actions, trust, zarya⟩
    (∀ gateways service continuityId, runtime.AddressesTarget instanceAt
        (runtime.continuityRun codec now gateways service errorText continuityId request))
      ↔ ¬(Valid request ∧ runtime.Unaddressed instanceAt codec now errorText request) := by
  intro runtime
  have hremotes := EcosystemDiscoveryService.remotesAnnounce_run self actions
  constructor
  · rintro haddresses ⟨hvalid, hunaddressed⟩
    exact exists_not_addressesTarget hvalid hunaddressed "" (haddresses obligingGateways {} "")
  · intro h gateways service continuityId
    exact addressesTarget_of_addressed hremotes h

/-! ### Nodes that have announced no URL of their own -/

def announcingPeer (metadata : List (String × PyValue)) : Peer where
  nodeId := "b"
  nodeName := .str "laptop"
  address := "10.0.0.2"
  port := .int 9000
  protocolVersion := .str "0.2.0"
  discoveredAt := .epoch
  lastSeen := .epoch
  metadata := .dict metadata

def flaggedPeer : Peer := announcingPeer [("has_zarya", .bool true), ("flux_peer_id", .str "p")]

/-- What a node announces that has not found its address on the network. -/
def loopbackPeer : Peer := announcingPeer [("zarya_url", .str "http://127.0.0.1:8765/ecosystem/v1")]

def deskRuntime (peer : Peer) : ShyamRuntime where
  ecosystemRegistry := Transition.run (EcosystemDiscoveryService.step ⟨"a", "desk", "0.2.0"⟩) .empty
    [.localNode .epoch {}, .udpPeer peer]
  trustService := .trusting (PySet.empty.add "b")
  zaryaProvider := { isConnected := true }

theorem unaddressed_desk (instanceAt : String → ι) (codec : RecordCodec) (now : DateTime)
    (errorText : PyValue → PyValue → String) {peer : Peer}
    (hpeer : peer = flaggedPeer ∨ peer = loopbackPeer) :
    (deskRuntime peer).Unaddressed instanceAt codec now errorText
      ContinuityService.draftRequest := by
  have hcandidates : ∃ c, (deskRuntime peer).candidates = [c] ∧ c.nodeId = "b"
      ∧ Navigation.rejection {} c = none
      ∧ (∃ made, makeTarget errorText c.toNavigationCandidate = .ok made)
      ∧ ∃ node, (deskRuntime peer).ecosystemRegistry.getNode "b" = some node ∧ node.isLocal = false
        ∧ ∀ url, node.zaryaUrl = some url →
          (ZaryaClient.target url).baseUrl = (deskRuntime peer).zaryaProvider.baseUrl := by
    obtain rfl | rfl := hpeer
    · exact ⟨_, rfl, rfl, rfl, ⟨_, rfl⟩, _, rfl, rfl, fun url hurl => by cases hurl⟩
    · refine ⟨_, rfl, rfl, rfl, ⟨_, rfl⟩, _, rfl, rfl, fun url hurl => ?_⟩
      obtain rfl : "http://127.0.0.1:8765/ecosystem/v1" = url := Option.some.inj hurl
      decide
  obtain ⟨c, hcandidates, hid, heligible, ⟨made, hmade⟩, node, hnode, hremote, hlocal⟩ :=
    hcandidates
  refine ⟨c, made, node, FirstChoice.of_singleton hcandidates heligible, ?_, hmade, ?_, hremote,
    fun url hurl => congrArg instanceAt (hlocal url hurl)⟩
  · rw [hid]
    exact ⟨_, TrustService.getRecord_trusting (by simp), rfl⟩
  · rw [hid]
    exact hnode

/-- The local instance is asked to continue the work that was meant for the laptop. -/
theorem flagged_peer_not_addressed : ¬(deskRuntime flaggedPeer).AddressesTarget id
    ((deskRuntime flaggedPeer).continuityRun .unused .epoch obligingGateways {} (fun _ _ => "") "c"
      ContinuityService.draftRequest) :=
  exists_not_addressesTarget draftRequest_valid (unaddressed_desk id _ _ _ (.inl rfl)) "c"

theorem loopback_peer_not_addressed : ¬(deskRuntime loopbackPeer).AddressesTarget id
    ((deskRuntime loopbackPeer).continuityRun .unused .epoch obligingGateways {} (fun _ _ => "") "c"
      ContinuityService.draftRequest) :=
  exists_not_addressesTarget draftRequest_valid (unaddressed_desk id _ _ _ (.inr rfl)) "c"

end ShyamRuntime

end Shyam
