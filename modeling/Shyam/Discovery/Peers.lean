import Shyam.Discovery.Ecosystem

/-!
# UDP discovery

What becomes of a datagram. An announcement names a node by its id, and nothing shows who sent it. A
peer that is new is validated, an update of a known peer is not. The runtime passes every new or
changed peer on to the ecosystem. Two steps of the reaper are apart: it drops the silent peers, and
then reports them one by one.
-/

namespace Shyam

open Python

/-- What the standard library and pydantic contribute. -/
structure DiscoveryRules where
  parseUuid : String → Option String
  validatePort : PyValue → Option PyValue
  differs : PyValue → PyValue → Bool
  expired : DateTime → DateTime → Bool

structure Announcement where
  nodeId : String
  nodeName : PyValue
  address : String
  port : PyValue
  protocolVersion : PyValue
  metadata : PyValue

structure PeerMap where
  entries : Dict Peer := ∅
  keyed : ∀ id peer, entries.get? id = some peer → peer.nodeId = id

namespace PeerMap

def empty : PeerMap := ⟨∅, by simp⟩

/-- `peers[peer.node_id] = peer`. -/
def put (m : PeerMap) (peer : Peer) : PeerMap where
  entries := m.entries.set peer.nodeId peer
  keyed id p h := by
    rw [Dict.get?_set] at h
    split_ifs at h with hid
    · rw [← Option.some.inj h, hid]
    · exact m.keyed id p h

def filter (p : Peer → Bool) (m : PeerMap) : PeerMap where
  entries := m.entries.filter p
  keyed id peer h := by
    rw [Dict.get?_filter, Option.filter_eq_some_iff] at h
    exact m.keyed id peer h.1

end PeerMap

/-- The peers of the discovery service, those that are lost and not reported yet, and the
registry. -/
structure DiscoveryState where
  peers : PeerMap := .empty
  lost : List String := []
  registry : EcosystemRegistry := .empty

inductive NetworkAction where
  | datagram (now : DateTime) (payload : Option PyValue) (remoteIp : String)
  | reap (now : DateTime)
  | peerLost (nodeId : String)
  | localNode (now : DateTime) (fabric : LocalFabric)
  | fluxPeers (now : DateTime) (peers : List FluxPeerInfo)

namespace DiscoveryService

variable (rules : DiscoveryRules)

/-- The announcement in a datagram, if there is one; `payload` is what `json.loads` made of it. -/
def parse (payload : Option PyValue) (remoteIp : String) : Option Announcement :=
  match payload with
  | some (.dict fields) =>
      let payload := dictOf fields
      match payload.getD "node_id" .none, payload.getD "node_name" .none,
        payload.getD "port" .none with
      | _, _, .none => none
      | .str nodeId, nodeName, port =>
          if nodeId = "" ∨ nodeName.truthy = false then none
          else (rules.parseUuid nodeId).map fun nodeId =>
            { nodeId := nodeId
              nodeName := nodeName
              address := remoteIp
              port := port
              protocolVersion := payload.getD "protocol_version" (.str "0.2.0")
              metadata := payload.getD "metadata" (.dict []) }
      | _, _, _ => none
  | _ => none

def newPeer (now : DateTime) (a : Announcement) : Option Peer :=
  match a.nodeName, rules.validatePort a.port, a.protocolVersion, a.metadata with
  | .str nodeName, some port, .str protocolVersion, .dict fields =>
      some
        { nodeId := a.nodeId
          nodeName := .str nodeName
          address := a.address
          port := port
          protocolVersion := .str protocolVersion
          discoveredAt := now
          lastSeen := now
          metadata := .dict fields }
  | _, _, _, _ => none

/-- `model_copy(update=...)`, which validates nothing. -/
def updatedPeer (now : DateTime) (existing : Peer) (a : Announcement) : Peer :=
  { existing with
    lastSeen := now
    nodeName := a.nodeName
    address := a.address
    port := a.port
    protocolVersion := a.protocolVersion
    metadata := a.metadata }

def changed (existing : Peer) (a : Announcement) : Bool :=
  rules.differs existing.nodeName a.nodeName || existing.address ≠ a.address
    || rules.differs existing.port a.port
      || rules.differs existing.protocolVersion a.protocolVersion
    || rules.differs existing.metadata a.metadata

/-- A new peer that does not validate raises before it is kept. -/
def updatePeer (now : DateTime) (a : Announcement) (s : DiscoveryState) : DiscoveryState :=
  match s.peers.entries.get? a.nodeId with
  | none =>
      match newPeer rules now a with
      | some peer =>
          { s with
            peers := s.peers.put peer
            registry := EcosystemDiscoveryService.ingestUdpPeer peer s.registry }
      | none => s
  | some existing =>
      let updated := updatedPeer now existing a
      { s with
        peers := s.peers.put updated
        registry := if changed rules existing a then
          EcosystemDiscoveryService.ingestUdpPeer updated s.registry else s.registry }

/-- Self announcements are ignored. -/
def handleDatagram (self : LocalIdentity) (now : DateTime) (payload : Option PyValue)
    (remoteIp : String) (s : DiscoveryState) : DiscoveryState :=
  match parse rules payload remoteIp with
  | some a => if a.nodeId = self.nodeId then s else updatePeer rules now a s
  | none => s

def reap (now : DateTime) (s : DiscoveryState) : DiscoveryState :=
  { s with
    peers := s.peers.filter fun peer => !rules.expired now peer.lastSeen
    lost :=
      s.lost ++ (s.peers.filter fun peer => rules.expired now peer.lastSeen).entries.keys.elems }

def peerLost (nodeId : String) (s : DiscoveryState) : DiscoveryState :=
  if nodeId ∈ s.lost then
    { s with
      lost := s.lost.erase nodeId
      registry := EcosystemDiscoveryService.handleUdpPeerLost nodeId s.registry }
  else s

def step (self : LocalIdentity) (s : DiscoveryState) : NetworkAction → DiscoveryState
  | .datagram now payload remoteIp => handleDatagram rules self now payload remoteIp s
  | .reap now => reap rules now s
  | .peerLost nodeId => peerLost nodeId s
  | .localNode now fabric =>
      { s with registry := EcosystemDiscoveryService.discoverLocalNode self now fabric s.registry }
  | .fluxPeers now peers =>
      { s with registry := EcosystemDiscoveryService.ingestFluxPeers now peers s.registry }

/-! ### What a datagram tells -/

/-- The peer that an announcement makes, and whether it is passed on: the peer is new, or it
changed. -/
def heard (now : DateTime) (a : Announcement) (s : DiscoveryState) : Option (Peer × Bool) :=
  match s.peers.entries.get? a.nodeId with
  | none => (newPeer rules now a).map (·, true)
  | some existing => some (updatedPeer now existing a, changed rules existing a)

def received (self : LocalIdentity) (now : DateTime) (payload : Option PyValue) (remoteIp : String)
    (s : DiscoveryState) : Option (Peer × Bool) :=
  (parse rules payload remoteIp).bind fun a => if a.nodeId = self.nodeId then none
    else heard rules now a s

def keep (s : DiscoveryState) : Option (Peer × Bool) → DiscoveryState
  | none => s
  | some (peer, passedOn) =>
      { s with
        peers := s.peers.put peer
        registry := if passedOn then EcosystemDiscoveryService.ingestUdpPeer peer s.registry
          else s.registry }

theorem updatePeer_eq (now : DateTime) (a : Announcement) (s : DiscoveryState) :
    updatePeer rules now a s = keep s (heard rules now a s) := by
  rw [updatePeer, heard]
  cases s.peers.entries.get? a.nodeId with
  | none =>
      dsimp only
      cases newPeer rules now a with
      | none => rfl
      | some peer => rfl
  | some existing => rfl

theorem handleDatagram_eq (self : LocalIdentity) (now : DateTime) (payload : Option PyValue)
    (remoteIp : String) (s : DiscoveryState) :
    handleDatagram rules self now payload remoteIp s
      = keep s (received rules self now payload remoteIp s) := by
  rw [handleDatagram, received]
  cases parse rules payload remoteIp with
  | none => rfl
  | some a =>
      rw [Option.bind_some]
      dsimp only
      split_ifs
      · rfl
      · exact updatePeer_eq rules now a s

variable {rules} {self : LocalIdentity} {now : DateTime} {payload : Option PyValue}
  {remoteIp : String} {s : DiscoveryState} {peer : Peer} {passedOn : Bool}

theorem received_eq_some_iff :
    received rules self now payload remoteIp s = some (peer, passedOn)
      ↔ ∃ a, parse rules payload remoteIp = some a ∧ a.nodeId ≠ self.nodeId
        ∧ heard rules now a s = some (peer, passedOn) := by
  rw [received, Option.bind_eq_some_iff]
  simp only [Option.ite_none_left_eq_some]

theorem parse_eq_some {a : Announcement} (h : parse rules payload remoteIp = some a) :
    (∃ s, rules.parseUuid s = some a.nodeId) ∧ a.address = remoteIp := by
  unfold parse at h
  split at h
  · dsimp only at h
    split at h
    · cases h
    · split_ifs at h
      obtain ⟨id, hid, rfl⟩ := Option.map_eq_some_iff.mp h
      exact ⟨⟨_, hid⟩, rfl⟩
    · cases h
  · cases h

theorem newPeer_nodeId {now : DateTime} {a : Announcement} {peer : Peer}
    (h : newPeer rules now a = some peer) : peer.nodeId = a.nodeId := by
  rw [newPeer] at h
  split at h
  · cases h
    rfl
  · cases h

theorem nodeId_of_heard {a : Announcement} (h : heard rules now a s = some (peer, passedOn)) :
    peer.nodeId = a.nodeId := by
  rw [heard] at h
  split at h
  · obtain ⟨new, hnew, heq⟩ := Option.map_eq_some_iff.mp h
    cases heq
    exact newPeer_nodeId hnew
  · rename_i existing hexisting
    cases h
    exact s.peers.keyed a.nodeId existing hexisting

/-! ### What a step does to the node of one peer -/

variable (rules) in
/-- What an action tells about one peer. -/
def heartbeat (self : LocalIdentity) (id : String) (s : DiscoveryState) :
    NetworkAction → Option (Peer × Bool)
  | .datagram now payload remoteIp =>
      (received rules self now payload remoteIp s).filter fun told => told.1.nodeId = id
  | _ => none

variable {id : String} {action : NetworkAction} {node : DiscoveredNode}

theorem heartbeat_eq_some_iff : heartbeat rules self id s action = some (peer, passedOn)
    ↔ ∃ now payload remoteIp, action = .datagram now payload remoteIp
      ∧ received rules self now payload remoteIp s = some (peer, passedOn) ∧ peer.nodeId = id := by
  cases action with
  | datagram now payload remoteIp => simp [heartbeat, Option.filter_eq_some_iff]
  | _ => simp [heartbeat]

/-- What is passed on is ingested. -/
theorem registry_step_of_passedOn (h : heartbeat rules self id s action = some (peer, true)) :
    (step rules self s action).registry
      = EcosystemDiscoveryService.ingestUdpPeer peer s.registry := by
  obtain ⟨now, payload, remoteIp, rfl, hreceived, -⟩ := heartbeat_eq_some_iff.mp h
  rw [step, handleDatagram_eq, hreceived]
  rfl

/-- Otherwise the node stays as it is, or it becomes unavailable. -/
theorem getNode_step_of_quiet (hid : IsUuidText id) (hother : id ≠ self.nodeId)
    (hquiet : ∀ peer, heartbeat rules self id s action ≠ some (peer, true))
    (hnode : (step rules self s action).registry.getNode id = some node) :
    ∃ before, s.registry.getNode id = some before
      ∧ (node = before ∨ node = before.withState .unavailable) := by
  cases action with
  | datagram now payload remoteIp =>
      refine ⟨node, ?_, Or.inl rfl⟩
      rw [step, handleDatagram_eq] at hnode
      cases hreceived : received rules self now payload remoteIp s with
      | none =>
          rw [hreceived] at hnode
          exact hnode
      | some told =>
          obtain ⟨peer, passedOn⟩ := told
          rw [hreceived, keep] at hnode
          cases passedOn with
          | false => exact hnode
          | true =>
              have hne : id ≠ peer.nodeId := by
                intro hsame
                apply hquiet peer
                exact heartbeat_eq_some_iff.mpr ⟨now, payload, remoteIp, rfl, hreceived, hsame.symm⟩
              rw [if_pos rfl, EcosystemDiscoveryService.getNode_ingestUdpPeer_other hne] at hnode
              exact hnode
  | reap now => exact ⟨node, hnode, Or.inl rfl⟩
  | peerLost lostId =>
      rw [step, peerLost] at hnode
      split_ifs at hnode
      · dsimp only at hnode
        rw [EcosystemDiscoveryService.getNode_handleUdpPeerLost, Option.map_eq_some_iff] at hnode
        obtain ⟨before, hbefore, rfl⟩ := hnode
        refine ⟨before, hbefore, ?_⟩
        split_ifs
        · exact Or.inr rfl
        · exact Or.inl rfl
      · exact ⟨node, hnode, Or.inl rfl⟩
  | localNode now fabric =>
      rw [step,
        EcosystemDiscoveryService.getNode_discoverLocalNode_other now fabric hother] at hnode
      exact ⟨node, hnode, Or.inl rfl⟩
  | fluxPeers now peers =>
      rw [step, EcosystemDiscoveryService.getNode_ingestFluxPeers_other hid] at hnode
      exact ⟨node, hnode, Or.inl rfl⟩

end DiscoveryService

end Shyam
