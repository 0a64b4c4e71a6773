import Shyam.Proof.AnnouncementBytes
import Shyam.Proof.Provenance

/-!
# The hosts of one network

A host knows of the others only what they announced, whatever packets are lost, repeated or late. Of
itself it knows what it described.
-/

namespace Shyam

open Python Broadcast Transition

/-! ### What a host believes -/

/-- The peer is as it was announced. -/
structure Peer.Carries (peer : Peer) (a : Announcement) : Prop where
  nodeId : peer.nodeId = a.nodeId
  nodeName : peer.nodeName = a.nodeName
  address : peer.address = a.address
  port : peer.port = a.port
  protocolVersion : peer.protocolVersion = a.protocolVersion
  metadata : peer.metadata = a.metadata

/-- The node is as it was announced. -/
structure DiscoveredNode.Presents (node : DiscoveredNode) (a : Announcement) : Prop where
  nodeId : node.nodeId = a.nodeId
  remote : node.isLocal = false
  nodeName : a.nodeName = .str node.nodeName
  protocolVersion : a.protocolVersion = .str node.protocolVersion
  shows : ∃ port fields, a.port = .int port ∧ a.metadata = .dict fields
    ∧ node.Shows a.address port fields
    ∧ ∀ key value, (dictOf fields).get? key = some value → node.metadata.get? key = some value
  ingested : ∃ peer fields, peer.Carries a ∧ a.metadata = .dict fields
    ∧ node.providers
      = EcosystemDiscoveryService.udpProviders peer node.protocolVersion (dictOf fields)
    ∧ node.metadata = EcosystemDiscoveryService.udpMetadata peer (dictOf fields)

theorem DiscoveredNode.Presents.withState {node : DiscoveredNode} {a : Announcement}
    (h : node.Presents a) (state : EcosystemNodeState) : (node.withState state).Presents a := by
  obtain ⟨port, fields, hport, hmetadata, hshows, hfields⟩ := h.shows
  exact ⟨h.nodeId, h.remote, h.nodeName, h.protocolVersion, ⟨port, fields, hport, hmetadata,
    ⟨hshows.peerProvider, hshows.otherProviders, hshows.metadata⟩, hfields⟩, h.ingested⟩

/-- What is ingested of a peer that carries an announcement. -/
theorem Peer.Carries.presents {peer : Peer} {a : Announcement} (h : peer.Carries a)
    (htyped : a.WellTyped) (registry : EcosystemRegistry) :
    ∃ node : DiscoveredNode, node.Presents a
      ∧ EcosystemDiscoveryService.ingestUdpPeer peer registry = registry.registerNode node := by
  obtain ⟨nodeName, hnodeName⟩ := htyped.nodeName
  obtain ⟨port, hport⟩ := htyped.port
  obtain ⟨protocolVersion, hversion⟩ := htyped.protocolVersion
  obtain ⟨fields, hfields⟩ := htyped.metadata
  refine ⟨EcosystemDiscoveryService.udpNode registry peer nodeName protocolVersion (dictOf fields),
    ⟨h.nodeId, rfl, hnodeName, hversion,
      ⟨port, fields, hport, hfields, ?_, fun key value hkey => ?_⟩, peer, fields, h, hfields, rfl,
      rfl⟩, ?_⟩
  · exact h.address ▸ DiscoveryService.shows_udpNode registry peer nodeName protocolVersion
      (h.port.trans hport) fields
  · change ((((((∅ : Dict PyValue).set "origin" (.str "udp_broadcast")).set "address"
      (.str peer.address)).set "port"
      peer.port).update (dictOf fields)).get? key) = some value
    rw [Dict.get?_update, hkey]
    rfl
  · rw [EcosystemDiscoveryService.ingestUdpPeer, h.nodeName, hnodeName, h.protocolVersion, hversion,
      h.metadata, hfields]

section Network

variable {ι : Type} {rules : DiscoveryRules} {floatRepr : String → String}
  {hosts : ι → DiscoveryHost} {now : DateTime} {fabrics : ι → LocalFabric} {air air' : List Packet}
  {i : ι} {w : UdpWorld}

/-- Another host did announce this, and the packet is in the air. -/
def Told (hosts : ι → DiscoveryHost) (air : List Packet) (i : ι) (a : Announcement) : Prop :=
  ∃ j around data, (hosts j).broadcast around = .ok data ∧ ((hosts j).address, data) ∈ air
    ∧ (hosts j).identity.nodeId ≠ (hosts i).identity.nodeId ∧ a = (hosts j).announced around

theorem Told.mono (hair : air ⊆ air') {a : Announcement} (h : Told hosts air i a) :
    Told hosts air' i a := by
  obtain ⟨j, around, data, hdata, hmem, hother, ha⟩ := h
  exact ⟨j, around, data, hdata, hair hmem, hother, ha⟩

theorem Told.ne {a : Announcement} (h : Told hosts air i a) :
    a.nodeId ≠ (hosts i).identity.nodeId := by
  obtain ⟨j, around, data, -, -, hother, rfl⟩ := h
  exact hother

theorem Told.wellTyped {a : Announcement} (h : Told hosts air i a) : a.WellTyped := by
  obtain ⟨j, around, data, -, -, -, rfl⟩ := h
  exact ⟨⟨_, rfl⟩, ⟨_, rfl⟩, ⟨_, rfl⟩, ⟨_, rfl⟩⟩

/-- A peer that another host told about. -/
def IsTold (hosts : ι → DiscoveryHost) (air : List Packet) (i : ι) (peer : Peer) : Prop :=
  ∃ a, Told hosts air i a ∧ peer.Carries a

theorem IsTold.mono (hair : air ⊆ air') {peer : Peer} (h : IsTold hosts air i peer) :
    IsTold hosts air' i peer := by
  obtain ⟨a, htold, hcarries⟩ := h
  exact ⟨a, htold.mono hair, hcarries⟩

theorem IsTold.ne {peer : Peer} (h : IsTold hosts air i peer) :
    peer.nodeId ≠ (hosts i).identity.nodeId := by
  obtain ⟨a, htold, hcarries⟩ := h
  rw [hcarries.nodeId]
  exact htold.ne

def EventTold (hosts : ι → DiscoveryHost) (air : List Packet) (i : ι) : PeerEvent → Prop
  | .discovered peer | .updated peer => IsTold hosts air i peer
  | .lost nodeId => nodeId ≠ (hosts i).identity.nodeId

/-- The node of a host is its own description, or another host told about it. -/
structure RegistryTold (hosts : ι → DiscoveryHost) (now : DateTime) (fabrics : ι → LocalFabric)
    (air : List Packet) (i : ι) (registry : EcosystemRegistry) : Prop where
  own : registry.getNode (hosts i).identity.nodeId
    = some (EcosystemDiscoveryService.localNode (hosts i).identity now (fabrics i) .empty)
  others : ∀ id node, registry.getNode id = some node → id ≠ (hosts i).identity.nodeId →
    ∃ a, Told hosts air i a ∧ a.nodeId = id ∧ node.Presents a

/-- Everything that a host holds or has still to handle goes back to what was sent. -/
structure Honest (hosts : ι → DiscoveryHost) (now : DateTime) (fabrics : ι → LocalFabric)
    (air : List Packet) (i : ι) (w : UdpWorld) : Prop where
  tasks : ∀ task ∈ w.tasks, Told hosts air i task.2
  peers : ∀ id peer, w.state.peers.entries.get? id = some peer → IsTold hosts air i peer
  lost : ∀ id ∈ w.state.lost, id ≠ (hosts i).identity.nodeId
  published : ∀ event ∈ w.published, EventTold hosts air i event
  registry : RegistryTold hosts now fabrics air i w.state.registry

theorem EventTold.mono (hair : air ⊆ air') {event : PeerEvent} (h : EventTold hosts air i event) :
    EventTold hosts air' i event := by
  cases event with
  | discovered peer => exact IsTold.mono hair h
  | updated peer => exact IsTold.mono hair h
  | lost nodeId => exact h

theorem Honest.mono (hair : air ⊆ air') (h : Honest hosts now fabrics air i w) :
    Honest hosts now fabrics air' i w where
  tasks task htask := (h.tasks task htask).mono hair
  peers id peer hpeer := (h.peers id peer hpeer).mono hair
  lost := h.lost
  published event hevent := (h.published event hevent).mono hair
  registry :=
    { own := h.registry.own
      others := fun id node hnode hother => by
        obtain ⟨a, htold, hid, hpresents⟩ := h.registry.others id node hnode hother
        exact ⟨a, htold.mono hair, hid, hpresents⟩ }

/-! ### What a host does with it -/

theorem Honest.enqueue (h : Honest hosts now fabrics air i w) {a : Announcement}
    (ha : Told hosts air i a) (time : DateTime) :
    Honest hosts now fabrics air i (w.enqueue time a) where
  tasks task htask := by
    rcases List.mem_append.mp htask with htask | htask
    · exact h.tasks task htask
    · rw [List.mem_singleton.mp htask]
      exact ha
  peers := h.peers
  lost := h.lost
  published := h.published
  registry := h.registry

/-- The update of a told peer carries what was told last. -/
theorem carries_updatedPeer {existing : Peer} {a : Announcement} (hid : existing.nodeId = a.nodeId)
    (time : DateTime) : (DiscoveryService.updatedPeer time existing a).Carries a :=
  ⟨hid, rfl, rfl, rfl, rfl, rfl⟩

theorem carries_newPeer (hrules : DiscoveryHost.Recognized rules hosts) {a : Announcement}
    (htyped : a.WellTyped) {peer : Peer} {time : DateTime}
    (h : DiscoveryService.newPeer rules time a = some peer) : peer.Carries a := by
  have hheard : DiscoveryService.heard rules time a {} = some (peer, true) := by
    rw [DiscoveryService.heard]
    exact congrArg (Option.map (·, true)) h
  obtain ⟨hnodeName, haddress, hport, hversion, hmetadata⟩ :=
    DiscoveryService.fields_of_heard hrules.port htyped hheard
  exact ⟨DiscoveryService.newPeer_nodeId h, hnodeName, haddress, hport, hversion, hmetadata⟩

/-- A peer is kept, and perhaps published. -/
theorem Honest.put (h : Honest hosts now fabrics air i w) {peer : Peer}
    (hpeer : IsTold hosts air i peer) {published : List PeerEvent}
    (hpublished : ∀ event ∈ published, EventTold hosts air i event) (locked : Bool) :
    Honest hosts now fabrics air i
      { w with
        state := { w.state with peers := w.state.peers.put peer }
        locked
        published := w.published ++ published } where
  tasks := h.tasks
  peers id p hp := by
    rw [PeerMap.put, Dict.get?_set] at hp
    split_ifs at hp
    · exact Option.some.inj hp ▸ hpeer
    · exact h.peers id p hp
  lost := h.lost
  published event hevent := by
    rcases List.mem_append.mp hevent with hevent | hevent
    · exact h.published event hevent
    · exact hpublished event hevent
  registry := h.registry

theorem Honest.locking (hrules : DiscoveryHost.Recognized rules hosts)
    (h : Honest hosts now fabrics air i w) {a : Announcement} (ha : Told hosts air i a)
    (time : DateTime) :
    Honest hosts now fabrics air i (UdpWorld.locking rules time a w) := by
  rw [UdpWorld.locking]
  split
  · split
    · next peer hnew =>
        have hpeer : IsTold hosts air i peer := ⟨a, ha, carries_newPeer hrules ha.wellTyped hnew⟩
        have hdiscovered : ∀ event ∈ [PeerEvent.discovered peer], EventTold hosts air i event :=
          List.forall_mem_singleton.mpr hpeer
        exact h.put hpeer hdiscovered true
    · exact h
  · next existing hexisting =>
      have hpeer : IsTold hosts air i (DiscoveryService.updatedPeer time existing a) :=
        ⟨a, ha, carries_updatedPeer (w.state.peers.keyed _ _ hexisting) time⟩
      have hupdated : ∀ event ∈ [PeerEvent.updated (DiscoveryService.updatedPeer time existing a)],
          EventTold hosts air i event := List.forall_mem_singleton.mpr hpeer
      dsimp only
      split_ifs
      · exact h.put hpeer hupdated true
      · have hput := h.put hpeer (List.forall_mem_nil _) w.locked
        rwa [List.append_nil] at hput

theorem Honest.publishLost (h : Honest hosts now fabrics air i w) :
    Honest hosts now fabrics air i w.publishLost := by
  rw [UdpWorld.publishLost]
  split
  · next nodeId lost hlost =>
      have hall := h.lost
      rw [hlost, List.forall_mem_cons] at hall
      exact
        { tasks := h.tasks
          peers := h.peers
          lost := hall.2
          published :=
            List.forall_mem_append.mpr ⟨h.published, List.forall_mem_singleton.mpr hall.1⟩
          registry := h.registry }
  · exact h

theorem Honest.reaped (h : Honest hosts now fabrics air i w) (time : DateTime) :
    Honest hosts now fabrics air i { w with
      state := DiscoveryService.reap rules time w.state } where
  tasks := h.tasks
  peers id peer hpeer := by
    change (w.state.peers.entries.filter _).get? id = some peer at hpeer
    rw [Dict.get?_filter, Option.filter_eq_some_iff] at hpeer
    exact h.peers id peer hpeer.1
  lost := by
    refine List.forall_mem_append.mpr ⟨h.lost, fun id hid => ?_⟩
    obtain ⟨peer, hpeer⟩ :=
      Option.isSome_iff_exists.mp (Dict.mem_keys_iff.mp (PySet.mem_elems.mp hid))
    change (w.state.peers.entries.filter _).get? id = some peer at hpeer
    rw [Dict.get?_filter, Option.filter_eq_some_iff] at hpeer
    rw [← w.state.peers.keyed id peer hpeer.1]
    exact (h.peers id peer hpeer.1).ne
  published := h.published
  registry := h.registry

/-- An event is about another host, whose node becomes what was announced, or becomes
unavailable. -/
theorem RegistryTold.handle {registry : EcosystemRegistry}
    (h : RegistryTold hosts now fabrics air i registry) {event : PeerEvent}
    (hevent : EventTold hosts air i event) :
    RegistryTold hosts now fabrics air i (event.handle registry) := by
  have hingest {peer : Peer} (hpeer : IsTold hosts air i peer) :
      RegistryTold hosts now fabrics air i
        (EcosystemDiscoveryService.ingestUdpPeer peer registry) := by
    obtain ⟨a, ha, hcarries⟩ := hpeer
    obtain ⟨node, hpresents, hingest⟩ := hcarries.presents ha.wellTyped registry
    rw [hingest]
    constructor
    · rw [EcosystemRegistry.getNode_registerNode, if_neg (hpresents.nodeId ▸ ha.ne.symm)]
      exact h.own
    · intro id other hother hid
      rw [EcosystemRegistry.getNode_registerNode] at hother
      split_ifs at hother with hnode
      · cases hother
        exact ⟨a, ha, hpresents.nodeId.symm.trans hnode.symm, hpresents⟩
      · exact h.others id other hother hid
  cases event with
  | discovered peer => exact hingest hevent
  | updated peer => exact hingest hevent
  | lost nodeId =>
      rw [PeerEvent.handle]
      constructor
      · rw [EcosystemDiscoveryService.getNode_handleUdpPeerLost, h.own, Option.map_some]
        exact congrArg some (if_neg fun hlost => hevent hlost.1.symm)
      · intro id node hnode hid
        rw [EcosystemDiscoveryService.getNode_handleUdpPeerLost, Option.map_eq_some_iff] at hnode
        obtain ⟨before, hbefore, rfl⟩ := hnode
        obtain ⟨a, ha, hnodeId, hpresents⟩ := h.others id before hbefore hid
        refine ⟨a, ha, hnodeId, ?_⟩
        split_ifs
        · exact hpresents.withState .unavailable
        · exact hpresents

theorem Honest.act (hrules : DiscoveryHost.Recognized rules hosts)
    (h : Honest hosts now fabrics air i w) (task : DiscoveryTask) :
    Honest hosts now fabrics air i (UdpWorld.step rules (hosts i).identity w task.action) := by
  cases task with
  | updatePeer index =>
      change Honest hosts now fabrics air i (UdpWorld.updatePeer rules index w)
      rw [UdpWorld.updatePeer]
      split
      · next time a htask =>
          split_ifs
          · exact h
          · have hrest : Honest hosts now fabrics air i { w with
              tasks := w.tasks.eraseIdx index } :=
              ⟨fun task hmem => h.tasks task (List.eraseIdx_subset hmem), h.peers, h.lost,
                h.published, h.registry⟩
            exact hrest.locking hrules (h.tasks (time, a) (List.mem_of_getElem? htask)) time
      · exact h
  | releaseLock =>
      change Honest hosts now fabrics air i w.releaseLock
      rw [UdpWorld.releaseLock]
      split_ifs
      · exact ⟨h.tasks, h.peers, h.lost, h.published, h.registry⟩
      · exact h
  | reap time =>
      change Honest hosts now fabrics air i (UdpWorld.reap rules time w)
      rw [UdpWorld.reap]
      split_ifs
      · exact h
      · exact (h.reaped time).publishLost
  | announceLost =>
      change Honest hosts now fabrics air i w.announceLost
      rw [UdpWorld.announceLost]
      split_ifs
      · exact h
      · exact h.publishLost
  | handleEvent =>
      change Honest hosts now fabrics air i w.handleEvent
      rw [UdpWorld.handleEvent]
      split
      · next event published hpublished =>
          have hall := h.published
          rw [hpublished, List.forall_mem_cons] at hall
          exact ⟨h.tasks, h.peers, h.lost, hall.2, h.registry.handle hall.1⟩
      · exact h

/-! ### The network -/

def IsSent (hosts : ι → DiscoveryHost) (packet : Packet) : Prop :=
  ∃ j around, (hosts j).broadcast around = .ok packet.2 ∧ packet.1 = (hosts j).address

theorem honest_start (hosts : ι → DiscoveryHost) (now : DateTime)
    (fabrics : ι → LocalFabric) (i : ι) :
    Honest hosts now fabrics [] i (UdpWorld.start (hosts i).identity now (fabrics i)) where
  tasks _ htask := nomatch htask
  peers id peer hpeer := by
    change (∅ : Dict Peer).get? id = some peer at hpeer
    rw [Dict.get?_empty] at hpeer
    cases hpeer
  lost _ hid := nomatch hid
  published _ hevent := nomatch hevent
  registry :=
    { own := (EcosystemRegistry.getNode_registerNode _ _ _).trans (if_pos rfl)
      others := fun id node hnode hother => by
        change (EcosystemRegistry.registerNode .empty _).getNode id = some node at hnode
        rw [EcosystemRegistry.getNode_registerNode] at hnode
        cases ((if_neg hother).symm.trans hnode).symm.trans (Dict.get?_empty id) }

theorem provable_honest (hrules : DiscoveryHost.Recognized rules hosts)
    (floatRepr : String → String) (now : DateTime) (fabrics : ι → LocalFabric) :
    Lan.Provable (discoveryParties rules floatRepr hosts) (IsSent hosts)
      (Honest hosts now fabrics) where
  mono := Honest.mono
  emit j around packet hpacket := by
    obtain ⟨data, hdata, rfl⟩ := Option.map_eq_some_iff.mp hpacket
    cases hbroadcast : (hosts j).broadcast around with
    | error exc =>
        rw [hbroadcast] at hdata
        cases hdata
    | ok sent =>
        rw [hbroadcast] at hdata
        cases hdata
        exact ⟨j, around, hbroadcast, rfl⟩
  receive i time air packet w hmem hsent h := by
    obtain ⟨j, around, hdata, haddress⟩ := hsent
    obtain ⟨address, data⟩ := packet
    obtain rfl : address = (hosts j).address := haddress
    obtain ⟨sent, hsent, hreceived⟩ := hrules.received floatRepr j around
    obtain rfl : sent = data := Except.ok.inj (hsent.symm.trans hdata)
    change Honest hosts now fabrics air i
      ((UdpWorld.datagramReceived rules (JsonValue.loads floatRepr)
        (some (hosts i).identity) time sent (hosts j).address w).toOption.getD w)
    rw [hreceived]
    by_cases hignored : (hosts j).identity.nodeName = ""
      ∨ (hosts i).identity.nodeId = (hosts j).identity.nodeId
    · rw [if_pos hignored]
      exact h
    · rw [if_neg hignored]
      exact h.enqueue ⟨j, around, sent, hsent, hmem,
        fun hsame => hignored (Or.inr hsame.symm), rfl⟩ time
  act i task _ _ h := h.act hrules task

variable [DecidableEq ι]

/-- What a host knows of the others is what they announced, and nothing changes what it knows of
itself. -/
structure Truthful (hosts : ι → DiscoveryHost) (now : DateTime) (fabrics : ι → LocalFabric)
    (lan : Lan ι UdpWorld Packet) (i : ι) : Prop where
  peers : ∀ id peer, (lan.party i).state.peers.entries.get? id = some peer →
    ∃ a, Told hosts lan.air i a ∧ peer.Carries a ∧ id = a.nodeId
  nodes : ∀ id node, (lan.party i).state.registry.getNode id = some node →
    id ≠ (hosts i).identity.nodeId →
    ∃ a, Told hosts lan.air i a ∧ node.Presents a ∧ id = a.nodeId
  own : (lan.party i).state.registry.getNode (hosts i).identity.nodeId
    = some (EcosystemDiscoveryService.localNode (hosts i).identity now (fabrics i) .empty)

/-- **Discovery.** Whatever packets are lost, repeated or late, and however the tasks of the hosts
are interleaved: every peer and every foreign node that a host knows is as another host announced it
in a packet that it sent, and no packet changes what the host knows of itself. -/
theorem discovery_truthful (rules : DiscoveryRules) (floatRepr : String → String)
    (hosts : ι → DiscoveryHost) (hrules : DiscoveryHost.Recognized rules hosts) (now : DateTime)
    (fabrics : ι → LocalFabric)
    (actions : List (LanAction ι Surroundings DateTime DiscoveryTask)) (i : ι) :
    Truthful hosts now fabrics
      (run (Lan.step (discoveryParties rules floatRepr hosts))
        (silentNetwork hosts now fabrics) actions) i := by
  have hbacked : Lan.Backed (IsSent hosts) (Honest hosts now fabrics)
      (run (Lan.step (discoveryParties rules floatRepr hosts))
        (silentNetwork hosts now fabrics) actions) :=
    (provable_honest hrules floatRepr now fabrics).run
      ⟨fun _ hpacket => absurd hpacket List.not_mem_nil, honest_start hosts now fabrics⟩ actions
  have h := hbacked.party i
  refine ⟨fun id peer hpeer => ?_, fun id node hnode hid => ?_, h.registry.own⟩
  · obtain ⟨a, ha, hcarries⟩ := h.peers id peer hpeer
    exact ⟨a, ha, hcarries, (PeerMap.keyed _ id peer hpeer).symm.trans hcarries.nodeId⟩
  · obtain ⟨a, ha, hnodeId, hpresents⟩ := h.registry.others id node hnode hid
    exact ⟨a, ha, hpresents, hnodeId.symm⟩

def homeHosts (laptop : Bool) : DiscoveryHost :=
  if laptop then { identity := ⟨uuidText 2, "laptop", "0.2.0"⟩, address := "10.0.0.2" }
  else { identity := ⟨uuidText 3, "desk", "0.2.0"⟩, address := "10.0.0.3" }

theorem recognized_home : DiscoveryHost.Recognized UdpWorld.laptopRules homeHosts where
  uuid laptop := by cases laptop <;> rfl
  nonempty laptop := by cases laptop <;> decide
  port _ := rfl

theorem discovery_truthful_home :
    Truthful homeHosts .epoch (fun _ => {})
      (run (Lan.step (discoveryParties UdpWorld.laptopRules id homeHosts))
        (silentNetwork homeHosts .epoch fun _ => {})
        [.send true {}, .deliver false 0 .epoch, .act false (.updatePeer 0),
          .act false .handleEvent]) false :=
  discovery_truthful UdpWorld.laptopRules id homeHosts recognized_home .epoch (fun _ => {}) _ false

end Network

end Shyam
