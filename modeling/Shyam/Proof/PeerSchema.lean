import Shyam.Discovery.Peers

/-!
# The schema of tracked peers

A new peer is validated. The update of a known peer copies what was announced, so a single ill-typed
datagram that names a known peer breaks its schema, and nothing else does.
-/

namespace Shyam

open Python Transition

/-- What the standard library and pydantic promise: a parsed UUID prints as one, and an `int` field
holds an integer. -/
structure DiscoveryRules.Sound (rules : DiscoveryRules) : Prop where
  uuid : ∀ s id, rules.parseUuid s = some id → IsUuidText id
  port : ∀ value port, rules.validatePort value = some port → ∃ i, port = .int i

/-- The announced fields have the types of the schema. -/
structure Announcement.WellTyped (a : Announcement) : Prop where
  nodeName : ∃ nodeName, a.nodeName = .str nodeName
  port : ∃ port, a.port = .int port
  protocolVersion : ∃ protocolVersion, a.protocolVersion = .str protocolVersion
  metadata : ∃ fields, a.metadata = .dict fields

namespace DiscoveryService

variable {rules : DiscoveryRules} {self : LocalIdentity} {now : DateTime} {payload : Option PyValue}
  {remoteIp : String} {a : Announcement} {s : DiscoveryState} {peer existing : Peer}

theorem isUuidText_of_parse (hsound : rules.Sound) (h : parse rules payload remoteIp = some a) :
    IsUuidText a.nodeId := by
  obtain ⟨⟨text, htext⟩, -⟩ := parse_eq_some h
  exact hsound.uuid text a.nodeId htext

/-- The validated constructor. -/
theorem valid_newPeer (hsound : rules.Sound) (hid : IsUuidText a.nodeId)
    (h : newPeer rules now a = some peer) : peer.Valid := by
  rw [newPeer] at h
  split at h
  · rename_i nodeName port protocolVersion fields hnodeName hport hprotocolVersion hmetadata
    cases h
    exact ⟨hid, ⟨_, rfl⟩, hsound.port _ port hport, ⟨_, rfl⟩, ⟨_, rfl⟩⟩
  · cases h

/-- The copy that is not validated. -/
theorem valid_updatedPeer_iff (h : existing.Valid) :
    (updatedPeer now existing a).Valid ↔ a.WellTyped :=
  ⟨fun hvalid => ⟨hvalid.nodeName, hvalid.port, hvalid.protocolVersion, hvalid.metadata⟩,
    fun htyped => ⟨h.nodeId, htyped.nodeName, htyped.port, htyped.protocolVersion, htyped.metadata⟩⟩

/-! ### Traffic -/

/-- The state of discovery, and the peers in the events it has published. -/
structure Traffic where
  state : DiscoveryState := {}
  published : List Peer := []

def Traffic.step (rules : DiscoveryRules) (self : LocalIdentity) (w : Traffic)
    (action : NetworkAction) :
    Traffic where
  state := DiscoveryService.step rules self w.state action
  published := match action with
    | .datagram now payload remoteIp =>
        match received rules self now payload remoteIp w.state with
        | some (peer, true) => w.published ++ [peer]
        | _ => w.published
    | _ => w.published

structure Traffic.FitsSchema (w : Traffic) : Prop where
  tracked : ∀ id peer, w.state.peers.entries.get? id = some peer → peer.Valid
  published : ∀ peer ∈ w.published, peer.Valid

/-- A datagram that names a tracked peer is well typed. -/
def Traffic.UpdatesWellTyped (rules : DiscoveryRules) (self : LocalIdentity) (w : Traffic) :
    NetworkAction → Prop
  | .datagram _ payload remoteIp => ∀ a, parse rules payload remoteIp = some a →
      a.nodeId ≠ self.nodeId →
      (w.state.peers.entries.get? a.nodeId).isSome → a.WellTyped
  | _ => True

variable {w : Traffic}

theorem get?_keep (s : DiscoveryState) (peer : Peer) (passedOn : Bool) (id : String) :
    (keep s (some (peer, passedOn))).peers.entries.get? id
      = if id = peer.nodeId then some peer else s.peers.entries.get? id :=
  Dict.get?_set s.peers.entries peer.nodeId peer id

/-- What was heard fits the schema, unless it is an ill-typed update. -/
theorem valid_heard (hsound : rules.Sound) (h : w.FitsSchema) {passedOn : Bool}
    (hupdates : w.UpdatesWellTyped rules self (.datagram now payload remoteIp))
    (hreceived : received rules self now payload remoteIp w.state = some (peer, passedOn)) :
    peer.Valid := by
  obtain ⟨a, hparse, hother, hheard⟩ := received_eq_some_iff.mp hreceived
  rw [heard] at hheard
  split at hheard
  · obtain ⟨new, hnew, heq⟩ := Option.map_eq_some_iff.mp hheard
    cases heq
    exact valid_newPeer hsound (isUuidText_of_parse hsound hparse) hnew
  · rename_i existing hexisting
    cases hheard
    have htyped := hupdates a hparse hother (by rw [hexisting, Option.isSome_some])
    exact (valid_updatedPeer_iff (h.tracked a.nodeId existing hexisting)).mpr htyped

theorem fitsSchema_datagram (hsound : rules.Sound) (h : w.FitsSchema)
    (hupdates : w.UpdatesWellTyped rules self (.datagram now payload remoteIp)) :
    (w.step rules self (.datagram now payload remoteIp)).FitsSchema := by
  cases hreceived : received rules self now payload remoteIp w.state with
  | none =>
      constructor
      · intro id p hp
        rw [Traffic.step, DiscoveryService.step, handleDatagram_eq, hreceived] at hp
        exact h.tracked id p hp
      · intro p hp
        rw [Traffic.step, hreceived] at hp
        exact h.published p hp
  | some told =>
      obtain ⟨peer, passedOn⟩ := told
      have hvalid := valid_heard hsound h hupdates hreceived
      constructor
      · intro id p hp
        rw [Traffic.step, DiscoveryService.step, handleDatagram_eq, hreceived, get?_keep] at hp
        split_ifs at hp
        · cases hp
          exact hvalid
        · exact h.tracked id p hp
      · intro p hp
        rw [Traffic.step, hreceived] at hp
        cases passedOn with
        | false => exact h.published p hp
        | true =>
            rcases List.mem_append.mp hp with hp | hp
            · exact h.published p hp
            · rw [List.mem_singleton.mp hp]
              exact hvalid

/-- An ill-typed update is tracked as it is. -/
theorem updatesWellTyped_of_fitsSchema (h : w.FitsSchema)
    (hafter : (w.step rules self (.datagram now payload remoteIp)).FitsSchema) :
    w.UpdatesWellTyped rules self (.datagram now payload remoteIp) := by
  intro a hparse hother hsome
  obtain ⟨existing, hexisting⟩ := Option.isSome_iff_exists.mp hsome
  have hreceived : received rules self now payload remoteIp w.state
      = some (updatedPeer now existing a, changed rules existing a) := by
    rw [received_eq_some_iff]
    refine ⟨a, hparse, hother, ?_⟩
    rw [heard, hexisting]
  have hkeyed := w.state.peers.keyed a.nodeId existing hexisting
  apply (valid_updatedPeer_iff (h.tracked a.nodeId existing hexisting)).mp
  apply hafter.tracked a.nodeId
  rw [Traffic.step, DiscoveryService.step, handleDatagram_eq, hreceived, get?_keep]
  exact if_pos hkeyed.symm

theorem fitsSchema_step_iff (hsound : rules.Sound) (h : w.FitsSchema) (action : NetworkAction) :
    (w.step rules self action).FitsSchema ↔ w.UpdatesWellTyped rules self action := by
  cases action with
  | datagram now payload remoteIp =>
      exact ⟨updatesWellTyped_of_fitsSchema h, fitsSchema_datagram hsound h⟩
  | reap now =>
      refine ⟨fun _ => trivial, fun _ => ⟨fun id peer hpeer => ?_, h.published⟩⟩
      change (reap rules now w.state).peers.entries.get? id = some peer at hpeer
      rw [reap, PeerMap.filter, Dict.get?_filter, Option.filter_eq_some_iff] at hpeer
      exact h.tracked id peer hpeer.1
  | peerLost nodeId =>
      refine ⟨fun _ => trivial, fun _ => ⟨fun id peer hpeer => h.tracked id peer ?_, h.published⟩⟩
      change (DiscoveryService.peerLost nodeId w.state).peers.entries.get? id = some peer at hpeer
      rw [DiscoveryService.peerLost] at hpeer
      split_ifs at hpeer <;> exact hpeer
  | localNode now fabric => exact ⟨fun _ => trivial, fun _ => ⟨h.tracked, h.published⟩⟩
  | fluxPeers now peers => exact ⟨fun _ => trivial, fun _ => ⟨h.tracked, h.published⟩⟩

/-- **Tracked peers.** After every datagram and every round of the reaper all tracked and all
published peers fit the schema, if and only if the datagrams that name a tracked peer are well
typed. A peer that fits the schema is registered. -/
theorem fitsSchema_iff_wellTyped (rules : DiscoveryRules) (hsound : rules.Sound)
    (self : LocalIdentity) (actions : List NetworkAction) :
    (Always (Traffic.step rules self) Traffic.FitsSchema {} actions
        ↔ Along (Traffic.step rules self) (Traffic.UpdatesWellTyped rules self) {} actions)
      ∧ ∀ peer : Peer, peer.Valid → ∃ nodeName protocolVersion announced, ∀ registry,
          EcosystemDiscoveryService.ingestUdpPeer peer registry = registry.registerNode
            (EcosystemDiscoveryService.udpNode registry peer nodeName
              protocolVersion announced) := by
  refine ⟨?_, fun peer hvalid => EcosystemDiscoveryService.exists_ingestUdpPeer_eq hvalid⟩
  apply always_iff_along (fun w action h => fitsSchema_step_iff hsound h action)
  refine ⟨fun id peer hpeer => ?_, fun peer hpeer => ?_⟩
  · cases hpeer
  · cases hpeer

/-! ### A laptop announces itself twice -/

/-- One id parses, as itself, and a port is an integer. -/
def strictRules : DiscoveryRules where
  parseUuid s := if s = uuidText 2 then some s else none
  validatePort
    | .int port => some (.int port)
    | _ => none
  differs _ _ := true
  expired _ _ := false

theorem sound_strictRules : strictRules.Sound where
  uuid s id h := by
    simp only [strictRules, Option.ite_none_right_eq_some] at h
    exact ⟨2, (Option.some.inj h.2).symm.trans h.1⟩
  port value port h := by
    cases value with
    | int i =>
        cases h
        exact ⟨i, rfl⟩
    | _ => cases h

def portAnnouncement (port : PyValue) : Announcement where
  nodeId := uuidText 2
  nodeName := .str "laptop"
  address := "10.0.0.2"
  port := port
  protocolVersion := .str "0.2.0"
  metadata := .dict []

def portDatagram (port : PyValue) : NetworkAction :=
  .datagram .epoch (some (.dict [("node_id", .str (uuidText 2)), ("node_name", .str "laptop"),
    ("port", port)])) "10.0.0.2"

theorem fitsSchema_twoPorts :
    Always (Traffic.step strictRules ⟨uuidText 1, "desk", "0.2.0"⟩) Traffic.FitsSchema {}
      [portDatagram (.int 54321), portDatagram (.int 54322)] := by
  apply (fitsSchema_iff_wellTyped strictRules sound_strictRules
    ⟨uuidText 1, "desk", "0.2.0"⟩ _).1.mpr
  have htyped (i : Int) (w : Traffic) :
      w.UpdatesWellTyped strictRules ⟨uuidText 1, "desk", "0.2.0"⟩ (portDatagram (.int i)) := by
    intro a hparse _ _
    cases hparse.symm.trans (rfl : _ = some (portAnnouncement (.int i)))
    exact ⟨⟨_, rfl⟩, ⟨_, rfl⟩, ⟨_, rfl⟩, ⟨_, rfl⟩⟩
  exact ⟨htyped 54321 _, htyped 54322 _, trivial⟩

/-- A second datagram with a port that is a text. -/
theorem tracked_port_is_text :
    let w := run (Traffic.step strictRules ⟨uuidText 1, "desk", "0.2.0"⟩) {}
      [portDatagram (.int 54321), portDatagram (.str "http")]
    (∃ peer, w.state.peers.entries.get? (uuidText 2) = some peer ∧ peer.port = .str "http")
      ∧ ∃ peer ∈ w.published, peer.port = .str "http" :=
  ⟨⟨_, rfl, rfl⟩, _, List.mem_cons_of_mem _ List.mem_cons_self, rfl⟩

end DiscoveryService

end Shyam
