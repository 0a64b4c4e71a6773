import Shyam.Discovery.Operations
import Shyam.Proof.PeerSchema
import Mathlib.Algebra.Order.Ring.Rat

/-!
# Live peers and staleness

A heartbeat renews the peer, but its node only when the heartbeat tells something new. So a peer
that repeats itself in time is marked as stale nevertheless, exactly when its last news is older
than the threshold.
-/

namespace Shyam

open Python Transition

/-- The fields that the models of the registry check. -/
def Peer.fitsNode (peer : Peer) : Bool :=
  match peer.nodeName, peer.protocolVersion, peer.metadata with
  | .str _, .str _, .dict _ => true
  | _, _, _ => false

def Peer.wellTyped (peer : Peer) : Bool :=
  match peer.port with
  | .int _ => peer.fitsNode
  | _ => false

theorem Peer.fitsNode_iff (peer : Peer) : peer.fitsNode = true
    ↔ ∃ nodeName protocolVersion fields, peer.nodeName = .str nodeName
      ∧ peer.protocolVersion = .str protocolVersion ∧ peer.metadata = .dict fields := by
  rw [fitsNode]
  split
  · rename_i hnodeName hprotocolVersion hmetadata
    exact ⟨fun _ => ⟨_, _, _, hnodeName, hprotocolVersion, hmetadata⟩, fun _ => rfl⟩
  · rename_i hmisfit
    constructor
    · intro h
      cases h
    · rintro ⟨nodeName, protocolVersion, fields, hnodeName, hprotocolVersion, hmetadata⟩
      exact absurd hmetadata (hmisfit _ _ _ hnodeName hprotocolVersion)

/-- An ingested peer that fits is the node from then on, any other leaves it. -/
theorem EcosystemDiscoveryService.getNode_ingestUdpPeer_self {registry : EcosystemRegistry}
    {peer : Peer} {node : DiscoveredNode}
    (h : (ingestUdpPeer peer registry).getNode peer.nodeId = some node) :
    (peer.fitsNode = true ∧ node.isLocal = false ∧ node.lastSeen = peer.lastSeen)
      ∨ peer.fitsNode = false ∧ registry.getNode peer.nodeId = some node := by
  rw [ingestUdpPeer] at h
  split at h
  · rename_i hnodeName hprotocolVersion hmetadata
    rw [EcosystemRegistry.getNode_registerNode] at h
    obtain rfl := Option.some.inj ((if_pos rfl).symm.trans h)
    refine Or.inl ⟨?_, rfl, rfl⟩
    exact peer.fitsNode_iff.mpr ⟨_, _, _, hnodeName, hprotocolVersion, hmetadata⟩
  · rename_i hmisfit
    refine Or.inr ⟨?_, h⟩
    rw [Bool.eq_false_iff, ne_eq, peer.fitsNode_iff]
    rintro ⟨nodeName, protocolVersion, fields, hnodeName, hprotocolVersion, hmetadata⟩
    exact hmisfit nodeName protocolVersion fields hnodeName hprotocolVersion hmetadata

/-! ### Discovery and reconciliation -/

inductive WiredAction where
  | network (action : NetworkAction)
  | reconcile (threshold : ℚ) (now : DateTime)

/-- Discovery, the times of the valid heartbeats of one peer, the last one first, and when its last
news was passed on. -/
structure Wired where
  state : DiscoveryState := {}
  heartbeats : List DateTime := []
  passedOn : Option DateTime := none

namespace Wired

open DiscoveryService

variable (elapsed : DateTime → DateTime → ℚ) (rules : DiscoveryRules) (self : LocalIdentity)
  (id : String)

def beat (w : Wired) : Option (Peer × Bool) → List DateTime
  | some (peer, _) => if peer.wellTyped then peer.lastSeen :: w.heartbeats else w.heartbeats
  | none => w.heartbeats

def news (w : Wired) : Option (Peer × Bool) → Option DateTime
  | some (peer, true) => if peer.fitsNode then some peer.lastSeen else w.passedOn
  | _ => w.passedOn

/-- `elapsed now seen` is `(now - seen).total_seconds()`. -/
def step (w : Wired) : WiredAction → Wired
  | .network action =>
      { state := DiscoveryService.step rules self w.state action
        heartbeats := w.beat (heartbeat rules self id w.state action)
        passedOn := w.news (heartbeat rules self id w.state action) }
  | .reconcile threshold now =>
      { w with state := { w.state with
          registry := w.state.registry.reconcileStale fun seen => threshold < elapsed now seen } }

/-- The heartbeats came at most `threshold` apart, and the last one at most that long ago. -/
def Punctual (threshold : ℚ) (now : DateTime) (w : Wired) : Prop :=
  w.heartbeats ≠ []
    ∧ (now :: w.heartbeats).IsChain fun later earlier => elapsed later earlier ≤ threshold

def MarksStale (w : Wired) (action : WiredAction) : Prop :=
  ∃ before after, w.state.registry.getNode id = some before ∧ before.state ≠ .stale
    ∧ (step elapsed rules self id w action).state.registry.getNode id
      = some after ∧ after.state = .stale

/-- A reconciliation does not mark a punctual peer. -/
def SparesLive (w : Wired) (action : WiredAction) : Prop :=
  ∀ threshold now, action = .reconcile threshold now → w.Punctual elapsed threshold now →
    ¬ w.MarksStale elapsed rules self id action

/-- The last news of a punctual peer is no older than the threshold, unless its
node counts as gone. -/
def NewsInTime (w : Wired) (action : WiredAction) : Prop :=
  ∀ threshold now, action = .reconcile threshold now → w.Punctual elapsed threshold now →
    ∀ node, w.state.registry.getNode id = some node →
      node.state = .available ∨ node.state = .known →
      ∃ t, w.passedOn = some t ∧ elapsed now t ≤ threshold

/-- The node of the peer was last seen with its last news. -/
def Tracks (w : Wired) : Prop :=
  ∀ node, w.state.registry.getNode id = some node →
    node.isLocal = false ∧ w.passedOn = some node.lastSeen

variable {elapsed rules self id} {w : Wired}

theorem tracks_network (hid : IsUuidText id) (hother : id ≠ self.nodeId) (htracks : w.Tracks id)
    (action : NetworkAction) : (step elapsed rules self id w (.network action)).Tracks id := by
  intro node hnode
  change (DiscoveryService.step rules self w.state action).registry.getNode id = some node at hnode
  change node.isLocal = false ∧ w.news (heartbeat rules self id w.state action) = some node.lastSeen
  by_cases hpassedOn : ∃ peer, heartbeat rules self id w.state action = some (peer, true)
  · obtain ⟨peer, hheartbeat⟩ := hpassedOn
    obtain ⟨-, -, -, -, -, rfl⟩ := heartbeat_eq_some_iff.mp hheartbeat
    rw [registry_step_of_passedOn hheartbeat] at hnode
    rw [hheartbeat, news]
    obtain ⟨hfits, hlocal, hlastSeen⟩ | ⟨hfits, hbefore⟩ :=
      EcosystemDiscoveryService.getNode_ingestUdpPeer_self hnode
    · rw [if_pos hfits, hlastSeen]
      exact ⟨hlocal, rfl⟩
    · rw [hfits, if_neg Bool.false_ne_true]
      exact htracks node hbefore
  · have hsame : w.news (heartbeat rules self id w.state action) = w.passedOn := by
      unfold news
      split
      · rename_i peer hheartbeat
        exact absurd ⟨peer, hheartbeat⟩ hpassedOn
      · rfl
    rw [hsame]
    obtain ⟨before, hbefore, rfl | rfl⟩ :=
      getNode_step_of_quiet hid hother (not_exists.mp hpassedOn) hnode
    · exact htracks node hbefore
    · exact htracks before hbefore

theorem tracks_reconcile (htracks : w.Tracks id) (threshold : ℚ) (now : DateTime) :
    (step elapsed rules self id w (.reconcile threshold now)).Tracks id := by
  intro node hnode
  change (w.state.registry.reconcileStale _).getNode id = some node at hnode
  rw [EcosystemRegistry.getNode_reconcileStale, Option.map_eq_some_iff] at hnode
  obtain ⟨before, hbefore, rfl⟩ := hnode
  have hlastSeen : (before.reconciled fun seen => threshold < elapsed now seen).lastSeen
      = before.lastSeen := by
    rw [DiscoveredNode.reconciled]
    split_ifs <;> rfl
  rw [DiscoveredNode.isLocal_reconciled, hlastSeen]
  exact htracks before hbefore

/-- What a reconciliation marks. -/
theorem marksStale_reconcile_iff (htracks : w.Tracks id) (threshold : ℚ) (now : DateTime) :
    w.MarksStale elapsed rules self id (.reconcile threshold now)
      ↔ ∃ node t, w.state.registry.getNode id = some node
        ∧ (node.state = .available ∨ node.state = .known)
        ∧ w.passedOn = some t ∧ threshold < elapsed now t := by
  have hnext (node : DiscoveredNode) (hnode : w.state.registry.getNode id = some node) :
      (step elapsed rules self id w (.reconcile threshold now)).state.registry.getNode id
        = some (node.reconciled fun seen => threshold < elapsed now seen) := by
    change (w.state.registry.reconcileStale _).getNode id = _
    rw [EcosystemRegistry.getNode_reconcileStale, hnode]
    rfl
  have hstale (node : DiscoveredNode) (hlocal : node.isLocal = false) :
      node.goesStale (fun seen => threshold < elapsed now seen) = true
        ↔ (node.state = .available ∨ node.state = .known)
          ∧ threshold < elapsed now node.lastSeen := by
    simp [DiscoveredNode.goesStale, hlocal]
  constructor
  · rintro ⟨before, after, hbefore, hfresh, hafter, hmarked⟩
    obtain ⟨hlocal, hpassedOn⟩ := htracks before hbefore
    cases hafter.symm.trans (hnext before hbefore)
    rw [DiscoveredNode.state_reconciled] at hmarked
    split_ifs at hmarked with hgoes
    · obtain ⟨hactive, hlate⟩ := (hstale before hlocal).mp hgoes
      exact ⟨before, before.lastSeen, hbefore, hactive, hpassedOn, hlate⟩
    · exact absurd hmarked hfresh
  · rintro ⟨node, t, hnode, hactive, hpassedOn, hlate⟩
    obtain ⟨hlocal, hlastSeen⟩ := htracks node hnode
    cases hlastSeen.symm.trans hpassedOn
    refine ⟨node, _, hnode, ?_, hnext node hnode, ?_⟩
    · intro hstale
      rw [hstale] at hactive
      cases hactive with
      | inl h => cases h
      | inr h => cases h
    · rw [DiscoveredNode.state_reconciled, if_pos ((hstale node hlocal).mpr ⟨hactive, hlate⟩)]

theorem sparesLive_iff (htracks : w.Tracks id) (action : WiredAction) :
    w.SparesLive elapsed rules self id action ↔ w.NewsInTime elapsed id action := by
  have hmarks (threshold : ℚ) (now : DateTime) :
      ¬ w.MarksStale elapsed rules self id (.reconcile threshold now)
        ↔ ∀ node, w.state.registry.getNode id = some node →
          node.state = .available ∨ node.state = .known →
          ∃ t, w.passedOn = some t ∧ elapsed now t ≤ threshold := by
    rw [marksStale_reconcile_iff htracks]
    constructor
    · intro hspared node hnode hactive
      have hpassedOn := (htracks node hnode).2
      refine ⟨node.lastSeen, hpassedOn, not_lt.mp fun hlate => hspared ?_⟩
      exact ⟨node, node.lastSeen, hnode, hactive, hpassedOn, hlate⟩
    · rintro hintime ⟨node, t, hnode, hactive, hpassedOn, hlate⟩
      obtain ⟨t', hpassedOn', hle⟩ := hintime node hnode hactive
      cases hpassedOn.symm.trans hpassedOn'
      exact absurd hlate (not_lt.mpr hle)
  constructor
  · rintro hspares threshold now rfl hpunctual
    exact (hmarks threshold now).mp (hspares threshold now rfl hpunctual)
  · rintro hnews threshold now rfl hpunctual
    exact (hmarks threshold now).mpr (hnews threshold now rfl hpunctual)

/-- **Staleness.** In every run the punctual peer is spared exactly as long as its
last news is in time. -/
theorem sparesLive_iff_newsInTime (elapsed : DateTime → DateTime → ℚ) (rules : DiscoveryRules)
    (self : LocalIdentity) (id : String) (hid : IsUuidText id) (hother : id ≠ self.nodeId)
    (actions : List WiredAction) :
    Along (step elapsed rules self id) (SparesLive elapsed rules self id) {} actions
      ↔ Along (step elapsed rules self id) (NewsInTime elapsed id) {} actions := by
  apply along_iff_of_invariant (I := Tracks id)
  · intro w action htracks
    cases action with
    | network action => exact tracks_network hid hother htracks action
    | reconcile threshold now => exact tracks_reconcile htracks threshold now
  · intro w action htracks
    exact sparesLive_iff htracks action
  · intro node hnode
    cases hnode

/-! ### A laptop repeats itself -/

/-- One id parses, as itself, a port is an integer, and nothing ever changes. -/
def steadyRules : DiscoveryRules := { strictRules with differs := fun _ _ => false }

/-- Within one minute. -/
def elapsedSeconds (later earlier : DateTime) : ℚ := ((later.second - earlier.second : ℤ) : ℚ)

def steadyHeartbeat (second : Fin 60) : WiredAction :=
  .network (.datagram (.clock second) (some (.dict [("node_id", .str (uuidText 2)),
    ("node_name", .str "laptop"), ("port", .int 54321)])) "10.0.0.2")

theorem sparesLive_iff_newsInTime_laptop :
    Along (step elapsedSeconds steadyRules ⟨uuidText 1, "desk", "0.2.0"⟩ (uuidText 2))
      (SparesLive elapsedSeconds steadyRules ⟨uuidText 1, "desk", "0.2.0"⟩ (uuidText 2)) {}
      [steadyHeartbeat 0, steadyHeartbeat 20, .reconcile 30 (.clock 25)] := by
  apply (sparesLive_iff_newsInTime elapsedSeconds steadyRules ⟨uuidText 1, "desk", "0.2.0"⟩
    (uuidText 2)
    ⟨2, rfl⟩ (by decide) _).mpr
  refine ⟨?_, ?_, ?_, trivial⟩
  · intro threshold now haction
    cases haction
  · intro threshold now haction
    cases haction
  · intro threshold now haction hpunctual node hnode hactive
    cases haction
    exact ⟨.clock 0, rfl, by decide⟩

/-- Three heartbeats that are twenty seconds apart. -/
theorem punctual_marked_stale :
    let w := run (step elapsedSeconds steadyRules ⟨uuidText 1, "desk", "0.2.0"⟩ (uuidText 2)) {}
      [steadyHeartbeat 0, steadyHeartbeat 20, steadyHeartbeat 40]
    w.Punctual elapsedSeconds 30 (.clock 50)
      ∧ w.MarksStale elapsedSeconds steadyRules ⟨uuidText 1, "desk", "0.2.0"⟩ (uuidText 2)
        (.reconcile 30 (.clock 50)) := by
  refine ⟨⟨?_, ?_⟩, ?_⟩
  · exact List.cons_ne_nil _ _
  · change [DateTime.clock 50, .clock 40, .clock 20, .clock 0].IsChain fun later earlier =>
      elapsedSeconds later earlier ≤ 30
    simp only [List.isChain_cons_cons, List.IsChain.singleton, and_true]
    decide
  · refine ⟨_, _, rfl, ?_, rfl, ?_⟩
    · decide
    · decide

end Wired

end Shyam
