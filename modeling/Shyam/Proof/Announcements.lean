import Shyam.Discovery.Peers
import Shyam.Proof.WiredRuns

/-!
# Announcements and the addresses of trusted work

What discovery knows of a node comes from the datagrams that name it. So two runs that receive the
same of those, and otherwise what they like, agree on where the node's work goes. Nobody checks who
sent a datagram that names the node: a single spoofed one sends the work elsewhere.
-/

namespace Shyam

open Python Interaction Continuity

/-! ### What discovery knows of one node -/

namespace DiscoveryService

variable {rules : DiscoveryRules} {self : LocalIdentity} {s s' : DiscoveryState} {nodeId : String}

/-- Datagrams and reports that name the node, and every step that is not about a single peer. -/
def concerns (rules : DiscoveryRules) (nodeId : String) : NetworkAction → Bool
  | .datagram _ payload remoteIp => (parse rules payload remoteIp).any (·.nodeId = nodeId)
  | .peerLost lostId => lostId = nodeId
  | .reap _ | .localNode _ _ | .fluxPeers _ _ => true

/-- The peer, its node, and how often it waits to be reported lost. -/
def view (nodeId : String) (s : DiscoveryState) : Option Peer × Option DiscoveredNode × ℕ :=
  (s.peers.entries.get? nodeId, s.registry.getNode nodeId, s.lost.count nodeId)

theorem view_eq_iff :
    view nodeId s = view nodeId s' ↔ s.peers.entries.get? nodeId = s'.peers.entries.get? nodeId
    ∧ s.registry.getNode nodeId = s'.registry.getNode nodeId
    ∧ s.lost.count nodeId = s'.lost.count nodeId := by
  rw [view, view, Prod.mk.injEq, Prod.mk.injEq]

/-- Registering a node that depends only on its own entry. -/
theorem getNode_registerNode_congr {registry registry' : EcosystemRegistry}
    {node node' : DiscoveredNode} (hid : node.nodeId = node'.nodeId)
    (hnode : nodeId = node.nodeId → node = node')
    (h : registry.getNode nodeId = registry'.getNode nodeId) :
    (registry.registerNode node).getNode nodeId
      = (registry'.registerNode node').getNode nodeId := by
  rw [EcosystemRegistry.getNode_registerNode, EcosystemRegistry.getNode_registerNode, ← hid, h]
  split_ifs with hsame
  · rw [hnode hsame]
  · rfl

theorem getNode_ingestUdpPeer_congr {registry registry' : EcosystemRegistry} (peer : Peer)
    (h : registry.getNode nodeId = registry'.getNode nodeId) :
    (EcosystemDiscoveryService.ingestUdpPeer peer registry).getNode nodeId
      = (EcosystemDiscoveryService.ingestUdpPeer peer registry').getNode nodeId := by
  rw [EcosystemDiscoveryService.ingestUdpPeer, EcosystemDiscoveryService.ingestUdpPeer]
  split
  · refine getNode_registerNode_congr ?_ ?_ h
    · rfl
    · rintro (rfl : nodeId = peer.nodeId)
      rw [EcosystemDiscoveryService.udpNode, EcosystemDiscoveryService.udpNode, h]
  · exact h

theorem getNode_ingestFluxPeers_congr {registry registry' : EcosystemRegistry} {now : DateTime}
    (peers : List FluxPeerInfo) (h : registry.getNode nodeId = registry'.getNode nodeId) :
    (EcosystemDiscoveryService.ingestFluxPeers now peers registry).getNode nodeId
      = (EcosystemDiscoveryService.ingestFluxPeers now peers registry').getNode nodeId := by
  induction peers generalizing registry registry' with
  | nil => exact h
  | cons peer peers ih =>
      apply ih
      refine getNode_registerNode_congr ?_ ?_ h
      · rfl
      · rintro (rfl : nodeId = "flux:" ++ peer.peerId)
        rw [EcosystemDiscoveryService.fluxNode, EcosystemDiscoveryService.fluxNode, h]

theorem get?_put (m : PeerMap) (peer : Peer) (id : String) :
    (m.put peer).entries.get? id = if id = peer.nodeId then some peer else m.entries.get? id :=
  Dict.get?_set m.entries peer.nodeId peer id

theorem view_keep_congr (told : Option (Peer × Bool)) (h : view nodeId s = view nodeId s') :
    view nodeId (keep s told) = view nodeId (keep s' told) := by
  cases told with
  | none => exact h
  | some told =>
      obtain ⟨hpeers, hregistry, hlost⟩ := view_eq_iff.mp h
      apply view_eq_iff.mpr
      refine ⟨?_, ?_, hlost⟩
      · rw [keep, keep, get?_put, get?_put, hpeers]
      · rw [keep, keep]
        split_ifs
        · exact getNode_ingestUdpPeer_congr told.1 hregistry
        · exact hregistry

theorem view_keep_other {told : Option (Peer × Bool)} (hother : ∀ t ∈ told, nodeId ≠ t.1.nodeId) :
    view nodeId (keep s told) = view nodeId s := by
  cases told with
  | none => rfl
  | some told =>
      have hne := hother told rfl
      apply view_eq_iff.mpr
      refine ⟨?_, ?_, rfl⟩
      · rw [keep, get?_put, if_neg hne]
      · rw [keep]
        split_ifs
        · exact EcosystemDiscoveryService.getNode_ingestUdpPeer_other hne
        · rfl

theorem view_updatePeer_other {now : DateTime} {a : Announcement} (hother : a.nodeId ≠ nodeId) :
    view nodeId (updatePeer rules now a s) = view nodeId s := by
  rw [updatePeer_eq]
  apply view_keep_other
  intro t ht
  rw [nodeId_of_heard ht]
  exact hother.symm

theorem view_updatePeer_congr {now : DateTime} (a : Announcement) (ha : a.nodeId = nodeId)
    (h : view nodeId s = view nodeId s') :
    view nodeId (updatePeer rules now a s) = view nodeId (updatePeer rules now a s') := by
  have hheard : heard rules now a s = heard rules now a s' := by
    rw [heard, heard, ha, (view_eq_iff.mp h).1]
  rw [updatePeer_eq, updatePeer_eq, hheard]
  exact view_keep_congr _ h

theorem count_expired (p : Peer → Bool) (m : PeerMap) (nodeId : String) :
    (m.filter p).entries.keys.elems.count nodeId
      = if ((m.entries.get? nodeId).filter p).isSome then 1 else 0 := by
  have hmem : nodeId ∈ (m.filter p).entries.keys.elems
      ↔ ((m.entries.get? nodeId).filter p).isSome := by
    rw [PySet.mem_elems, Dict.mem_keys_iff, PeerMap.filter, Dict.get?_filter]
  rw [List.Nodup.count (m.filter p).entries.keys.nodup]
  simp only [hmem]

theorem view_reap_congr (now : DateTime) (h : view nodeId s = view nodeId s') :
    view nodeId (reap rules now s) = view nodeId (reap rules now s') := by
  obtain ⟨hpeers, hregistry, hlost⟩ := view_eq_iff.mp h
  apply view_eq_iff.mpr
  refine ⟨?_, hregistry, ?_⟩
  · simp only [reap, PeerMap.filter, Dict.get?_filter, hpeers]
  · simp only [reap, List.count_append, count_expired, hlost, hpeers]

theorem mem_lost_iff : nodeId ∈ s.lost ↔ 0 < (view nodeId s).2.2 := List.count_pos_iff.symm

theorem view_peerLost_congr (h : view nodeId s = view nodeId s') :
    view nodeId (peerLost nodeId s) = view nodeId (peerLost nodeId s') := by
  obtain ⟨hpeers, hregistry, hlost⟩ := view_eq_iff.mp h
  have hmem : nodeId ∈ s.lost ↔ nodeId ∈ s'.lost := by
    rw [mem_lost_iff, mem_lost_iff, h]
  rw [peerLost, peerLost]
  by_cases hlostId : nodeId ∈ s.lost
  · rw [if_pos hlostId, if_pos (hmem.mp hlostId)]
    apply view_eq_iff.mpr
    refine ⟨hpeers, ?_, ?_⟩
    · rw [EcosystemDiscoveryService.getNode_handleUdpPeerLost,
        EcosystemDiscoveryService.getNode_handleUdpPeerLost, hregistry]
    · rw [List.count_erase_self, List.count_erase_self, hlost]
  · rw [if_neg hlostId, if_neg (mt hmem.mpr hlostId)]
    exact h

theorem view_peerLost_other {lostId : String} (hother : nodeId ≠ lostId) :
    view nodeId (peerLost lostId s) = view nodeId s := by
  rw [peerLost]
  split_ifs
  · apply view_eq_iff.mpr
    refine ⟨rfl, ?_, List.count_erase_of_ne hother⟩
    rw [EcosystemDiscoveryService.getNode_handleUdpPeerLost]
    simp [hother]
  · rfl

/-! ### Two runs of discovery -/

theorem view_step_congr (a : NetworkAction) (ha : concerns rules nodeId a = true)
    (h : view nodeId s = view nodeId s') :
    view nodeId (step rules self s a) = view nodeId (step rules self s' a) := by
  obtain ⟨hpeers, hregistry, hlost⟩ := view_eq_iff.mp h
  cases a with
  | datagram now payload remoteIp =>
      rw [concerns] at ha
      rw [step, step, handleDatagram, handleDatagram]
      cases hparse : parse rules payload remoteIp with
      | none => exact h
      | some announcement =>
          rw [hparse, Option.any_some, decide_eq_true_eq] at ha
          change view nodeId (ite _ _ _) = view nodeId (ite _ _ _)
          split_ifs
          · exact h
          · exact view_updatePeer_congr announcement ha h
  | reap now => exact view_reap_congr now h
  | peerLost lostId =>
      obtain rfl : lostId = nodeId := of_decide_eq_true ha
      exact view_peerLost_congr h
  | localNode now fabric =>
      apply view_eq_iff.mpr
      refine ⟨hpeers, ?_, hlost⟩
      refine getNode_registerNode_congr ?_ ?_ hregistry
      · rfl
      · rintro (rfl : nodeId = self.nodeId)
        rw [EcosystemDiscoveryService.localNode, EcosystemDiscoveryService.localNode, hregistry]
  | fluxPeers now peers =>
      apply view_eq_iff.mpr
      exact ⟨hpeers, getNode_ingestFluxPeers_congr peers hregistry, hlost⟩

theorem view_step_other (a : NetworkAction) (ha : concerns rules nodeId a = false) :
    view nodeId (step rules self s a) = view nodeId s := by
  cases a with
  | datagram now payload remoteIp =>
      rw [concerns] at ha
      rw [step, handleDatagram]
      cases hparse : parse rules payload remoteIp with
      | none => rfl
      | some announcement =>
          rw [hparse, Option.any_some, decide_eq_false_iff_not] at ha
          change view nodeId (ite _ _ _) = _
          split_ifs
          · rfl
          · exact view_updatePeer_other ha
  | peerLost lostId => exact view_peerLost_other (Ne.symm (of_decide_eq_false ha))
  | reap | localNode | fluxPeers => cases ha

/-- **Announcements.** The node is the same after both runs. -/
theorem getNode_run_eq {l l' : List NetworkAction}
    (h : l.filter (concerns rules nodeId) = l'.filter (concerns rules nodeId)) :
    (Transition.run (step rules self) s l).registry.getNode nodeId
      = (Transition.run (step rules self) s l').registry.getNode nodeId := by
  have hview : view nodeId (Transition.run (step rules self) s l)
      = view nodeId (Transition.run (step rules self) s l') :=
    Transition.view_run_eq (fun _ _ a ha h => view_step_congr a ha h)
      (fun _ a ha => view_step_other a ha) h
  exact (view_eq_iff.mp hview).2.1

end DiscoveryService

/-! ### Two runs of continuity -/

namespace Continuity

variable {Snapshot : Type}

def SelectsNode (run : Past Snapshot) (nodeId : String) : Prop :=
  ∃ candidate, Selected run candidate ∧ candidate.nodeId = nodeId

/-- Both runs transfer to the same peer, and send the work to the same URL. -/
def SameDestinations (run run' : Past Snapshot) : Prop :=
  (∀ peerId artifactPath answer peerId' artifactPath' answer',
      (⟨.transfer peerId artifactPath, answer⟩ : Event (Answer Snapshot)) ∈ run →
      (⟨.transfer peerId' artifactPath', answer'⟩ : Event (Answer Snapshot)) ∈ run' →
      peerId = peerId')
    ∧ ∀ work source id url answer work' source' id' url' answer',
      (⟨.continueWork work source id url, answer⟩ : Event (Answer Snapshot)) ∈ run →
      (⟨.continueWork work' source' id' url', answer'⟩ : Event (Answer Snapshot)) ∈ run' →
        url = url'

end Continuity

namespace ShyamRuntime

variable {runtime runtime' : ShyamRuntime} {codec : RecordCodec} {now : DateTime}
  {gateways : Gateways} {service : ContinuityService} {errorText : PyValue → PyValue → String}
  {continuityId nodeId : String} {request : ContinuityRequest} {c c' : Navigation.Candidate}
  {made : ContinuityTarget}

theorem mem_candidates_of_getNode_eq (hc : c ∈ runtime.candidates)
    (h : runtime.ecosystemRegistry.getNode c.nodeId = runtime'.ecosystemRegistry.getNode c.nodeId) :
    c ∈ runtime'.candidates := by
  obtain ⟨node, provider, cap, hnode, hprovider, hcap, hid, rfl⟩ :=
    Navigation.mem_discoverCandidates.mp hc
  exact Navigation.mem_discoverCandidates.mpr
    ⟨node, provider, cap, h.symm.trans hnode, hprovider, hcap, hid, rfl⟩

/-- Of one node, two registries that hold it have the same first choice. -/
theorem FirstChoice.eq_of_getNode_eq (hfirst : runtime.FirstChoice request c)
    (hfirst' : runtime'.FirstChoice request c') (hsame : c.nodeId = c'.nodeId)
    (h : runtime.ecosystemRegistry.getNode c.nodeId = runtime'.ecosystemRegistry.getNode c.nodeId) :
    c.toNavigationCandidate = c'.toNavigationCandidate := by
  have hc : c ∈ runtime'.candidates := mem_candidates_of_getNode_eq hfirst.mem h
  have hc' : c' ∈ runtime.candidates := by
    apply mem_candidates_of_getNode_eq hfirst'.mem
    rw [← hsame]
    exact h.symm
  have heligible := Navigation.mem_eligible.mpr ⟨hc, (Navigation.mem_eligible.mp hfirst.1).2⟩
  have heligible' := Navigation.mem_eligible.mpr ⟨hc', (Navigation.mem_eligible.mp hfirst'.1).2⟩
  have hkey := le_antisymm (hfirst.2 c' heligible') (hfirst'.2 c heligible)
  obtain ⟨hnode, hprovider⟩ := Navigation.ids_eq_of_rankingKey_eq hkey
  exact Navigation.toNavigationCandidate_eq hc hfirst'.mem hnode hprovider

/-- Every transfer and every hand-over of a run goes to the target made of its selected
candidate. -/
theorem destinations_of_selects
    (hselects : SelectsNode
      (runtime.continuityRun codec now gateways service errorText continuityId request) nodeId) :
    ∃ c, runtime.FirstChoice request c ∧ c.nodeId = nodeId ∧
      ∀ e ∈ runtime.continuityRun codec now gateways service errorText continuityId request,
        (∀ peerId artifactPath, e.op = .transfer peerId artifactPath →
          ∃ made, makeTarget errorText c.toNavigationCandidate = .ok made ∧ peerId = peerOf made)
        ∧ ∀ work source id url, e.op = .continueWork work source id url →
          ∃ made, makeTarget errorText c.toNavigationCandidate = .ok made
            ∧ url = orElse made.zaryaUrl none := by
  obtain ⟨candidate, hselected, hnode⟩ := hselects
  obtain ⟨c, hfirst, rfl⟩ := firstChoice_of_selected (List.append_nil _).symm hselected
  refine ⟨c, hfirst, hnode, fun e he => ?_⟩
  obtain ⟨before, after, hrun⟩ := List.append_of_mem he
  have hsound :=
    service.requestContinuity_sound (runtime.collaborators codec now gateways) errorText
    continuityId request before e after hrun
  have hmade : ∀ target, Aimed errorText before target →
      ∃ made, makeTarget errorText c.toNavigationCandidate = .ok made
        ∧ peerOf target = peerOf made ∧ target.zaryaUrl = made.zaryaUrl := by
    intro target haimed
    obtain ⟨c', made, verified, hfirst', hmade, rfl⟩ := firstChoice_of_aimed hrun haimed
    rw [← hfirst.unique hfirst'] at hmade
    exact ⟨made, hmade, rfl, rfl⟩
  obtain ⟨op, answer⟩ := e
  constructor
  · rintro peerId artifactPath rfl
    obtain ⟨target, haimed, hpeer⟩ := hsound
    obtain ⟨made, hmade, hpeerOf, -⟩ := hmade target haimed
    exact ⟨made, hmade, hpeer.trans hpeerOf⟩
  · rintro work source id url rfl
    obtain ⟨target, haimed, hurl⟩ := hsound
    obtain ⟨made, hmade, -, hzarya⟩ := hmade target haimed
    exact ⟨made, hmade, hzarya ▸ hurl⟩

theorem sameDestinations_of_getNode_eq {gateways' : Gateways} {service' : ContinuityService}
    {continuityId' : String}
    (h : runtime.ecosystemRegistry.getNode nodeId = runtime'.ecosystemRegistry.getNode nodeId)
    (hselects : SelectsNode
      (runtime.continuityRun codec now gateways service errorText continuityId request) nodeId)
    (hselects' : SelectsNode
      (runtime'.continuityRun codec now gateways' service' errorText continuityId' request)
        nodeId) :
    SameDestinations
      (runtime.continuityRun codec now gateways service errorText continuityId request)
      (runtime'.continuityRun codec now gateways' service' errorText continuityId' request) := by
  obtain ⟨c, hfirst, hnode, hdestinations⟩ := destinations_of_selects hselects
  obtain ⟨c', hfirst', hnode', hdestinations'⟩ := destinations_of_selects hselects'
  have hsame : c.toNavigationCandidate = c'.toNavigationCandidate := by
    apply hfirst.eq_of_getNode_eq hfirst' (hnode.trans hnode'.symm)
    rw [hnode]
    exact h
  constructor
  · intro peerId artifactPath answer peerId' artifactPath' answer' hmem hmem'
    obtain ⟨made, hmade, rfl⟩ := (hdestinations _ hmem).1 _ _ rfl
    obtain ⟨made', hmade', rfl⟩ := (hdestinations' _ hmem').1 _ _ rfl
    rw [hsame, hmade', Except.ok.injEq] at hmade
    rw [hmade]
  · intro work source id url answer work' source' id' url' answer' hmem hmem'
    obtain ⟨made, hmade, rfl⟩ := (hdestinations _ hmem).2 _ _ _ _ rfl
    obtain ⟨made', hmade', rfl⟩ := (hdestinations' _ hmem').2 _ _ _ _ rfl
    rw [hsame, hmade', Except.ok.injEq] at hmade
    rw [hmade]

def discovered (rules : DiscoveryRules) (self : LocalIdentity) (start : DiscoveryState)
    (actions : List NetworkAction) (trust : TrustService) (zarya : ZaryaProvider) : ShyamRuntime :=
  ⟨(Transition.run (DiscoveryService.step rules self) start actions).registry, trust, zarya⟩

/-- **Announcements do not redirect work.** Two runs of discovery that receive the same of what
names a node, and otherwise any datagrams, send the work for that node to the same peer and URL. -/
theorem continuityRun_sameDestinations (rules : DiscoveryRules) (self : LocalIdentity)
    (start : DiscoveryState) (trust : TrustService) (zarya : ZaryaProvider) (codec : RecordCodec)
    (now : DateTime) (errorText : PyValue → PyValue → String) (request : ContinuityRequest)
    {nodeId : String} {actions actions' : List NetworkAction}
    (hsame : actions.filter (DiscoveryService.concerns rules nodeId)
      = actions'.filter (DiscoveryService.concerns rules nodeId))
    {gateways gateways' : Gateways} {service service' : ContinuityService}
    {continuityId continuityId' : String}
    (hselects : SelectsNode
      ((discovered rules self start actions trust zarya).continuityRun codec now
      gateways service errorText continuityId request) nodeId)
    (hselects' : SelectsNode
      ((discovered rules self start actions' trust zarya).continuityRun codec now
      gateways' service' errorText continuityId' request) nodeId) :
    SameDestinations
      ((discovered rules self start actions trust zarya).continuityRun codec now gateways service
        errorText continuityId request)
      ((discovered rules self start actions' trust zarya).continuityRun codec now gateways' service'
        errorText continuityId' request) :=
  sameDestinations_of_getNode_eq (DiscoveryService.getNode_run_eq hsame) hselects hselects'

/-! ### A laptop and its announcements -/

def laptopId : String := "00000000-0000-4000-8000-00000000000b"

/-- Canonical ids parse as themselves, and dictionaries that differ are told apart. -/
def plainRules : DiscoveryRules where
  parseUuid := some
  validatePort
    | .int port => some (.int port)
    | _ => none
  differs
    | .str s, .str t => s ≠ t
    | .int i, .int j => i ≠ j
    | _, _ => true
  expired _ _ := false

def announcement (nodeId : String) (metadata : List (String × PyValue)) : NetworkAction :=
  .datagram .epoch (some (.dict [("node_id", .str nodeId), ("node_name", .str "laptop"),
    ("port", .int 54321), ("protocol_version", .str "0.2.0"), ("metadata", .dict metadata)]))
      "10.0.0.2"

def offer (url peerId : String) : List (String × PyValue) :=
  [("zarya_url", .str url), ("has_zarya", .bool true), ("flux_peer_id", .str peerId)]

def spoofed : NetworkAction := announcement laptopId (offer "http://10.0.0.66:8765" "q")

def bystander : NetworkAction := announcement "00000000-0000-4000-8000-00000000000c" []

/-- The laptop has announced itself and is trusted. Then the other datagrams come. -/
def laptopRuntime (others : List NetworkAction) : ShyamRuntime :=
  discovered plainRules ⟨"a", "desk", "0.2.0"⟩ {}
    ([.localNode .epoch {}, announcement laptopId (offer "http://10.0.0.2:8765" "p")] ++ others)
    (.trusting (PySet.empty.add laptopId)) { isConnected := true }

def laptopRun (others : List NetworkAction) : Past EcosystemSnapshot :=
  (laptopRuntime others).continuityRun .unused .epoch obligingGateways {} (fun _ _ => "") "c"
    ContinuityService.draftRequest

/-- The laptop is the only candidate, with the given URL. -/
def Offers (others : List NetworkAction) (url : String) : Prop :=
  ∃ c made, (laptopRuntime others).candidates = [c] ∧ c.nodeId = laptopId
    ∧ Navigation.rejection {} c = none
    ∧ makeTarget (fun _ _ => "") c.toNavigationCandidate = .ok made
    ∧ orElse made.zaryaUrl none = some url

theorem trusts_laptop (others : List NetworkAction) :
    (laptopRuntime others).Trusts .unused .epoch laptopId :=
  ⟨_, TrustService.getRecord_trusting (by simp), rfl⟩

theorem selectsNode_laptop {others : List NetworkAction} {url : String} (h : Offers others url) :
    SelectsNode (laptopRun others) laptopId := by
  obtain ⟨c, made, hcandidates, hnode, heligible, hmade, -⟩ := h
  rw [← hnode]
  apply selectsNode_of_firstChoice (fun _ _ => "") "c" draftRequest_valid
    (.of_singleton hcandidates heligible) _ hmade
  rw [hnode]
  exact trusts_laptop others

theorem exists_continueWork_laptop {others : List NetworkAction} {url : String}
    (h : Offers others url) : ∃ work source id answer,
      (⟨.continueWork work source id (some url), answer⟩ : Event (Answer EcosystemSnapshot))
        ∈ laptopRun others := by
  obtain ⟨c, made, hcandidates, hnode, heligible, hmade, hurl⟩ := h
  have htrusts := trusts_laptop others
  rw [← hnode] at htrusts
  obtain ⟨before, answer, after, session, hrun, -, -⟩ := handsOver_continuityRun (fun _ _ => "") "c"
    draftRequest_valid (.of_singleton hcandidates heligible) htrusts hmade
  rw [hurl] at hrun
  refine ⟨ContinuityService.draftRequest.portableWork,
    ContinuityService.draftRequest.sourceDeviceId, "c", answer, ?_⟩
  rw [laptopRun, hrun]
  exact List.mem_append_right _ List.mem_cons_self

theorem offers_alone : Offers [] "http://10.0.0.2:8765" := ⟨_, _, rfl, rfl, rfl, rfl, rfl⟩

theorem offers_bystander : Offers [bystander] "http://10.0.0.2:8765" :=
  ⟨_, _, rfl, rfl, rfl, rfl, rfl⟩

theorem offers_spoofed : Offers [spoofed] "http://10.0.0.66:8765" := ⟨_, _, rfl, rfl, rfl, rfl, rfl⟩

theorem continuityRun_sameDestinations_laptop :
    SameDestinations (laptopRun []) (laptopRun [bystander]) := by
  refine continuityRun_sameDestinations plainRules ⟨"a", "desk", "0.2.0"⟩
    {} _ { isConnected := true } .unused
    .epoch (fun _ _ => "") ContinuityService.draftRequest ?_ (selectsNode_laptop offers_alone)
    (selectsNode_laptop offers_bystander)
  rfl

/-- A spoofed datagram in the laptop's name sends the trusted work to another URL. -/
theorem spoofed_announcement_redirects :
    (laptopRuntime []).Trusts .unused .epoch laptopId
      ∧ SelectsNode (laptopRun []) laptopId ∧ SelectsNode (laptopRun [spoofed]) laptopId
      ∧ ¬SameDestinations (laptopRun []) (laptopRun [spoofed]) := by
  refine ⟨trusts_laptop [], selectsNode_laptop offers_alone, selectsNode_laptop offers_spoofed, ?_⟩
  rintro ⟨-, hurls⟩
  obtain ⟨work, source, id, answer, hmem⟩ := exists_continueWork_laptop offers_alone
  obtain ⟨work', source', id', answer', hmem'⟩ := exists_continueWork_laptop offers_spoofed
  have hsame := hurls work source id _ answer work' source' id' _ answer' hmem hmem'
  simp at hsame

end ShyamRuntime

end Shyam
