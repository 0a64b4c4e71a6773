import Shyam.Proof.DiscoveryNetwork

/-!
# One exchange of announcements

A host that is quiet makes of each packet one peer and one node, which stays available. So one
exchange is enough for all hosts to know each other.
-/

namespace Shyam

open Python Broadcast Transition

section Exchange

variable {ι : Type} {rules : DiscoveryRules} {floatRepr : String → String}
  {hosts : ι → DiscoveryHost} {i : ι} {w : UdpWorld}

/-- What a quiet host makes of a packet. -/
def hear (rules : DiscoveryRules) (time : DateTime) (a : Announcement) (w : UdpWorld) : UdpWorld :=
  (UdpWorld.updatePeer rules 0 (w.enqueue time a)).handleEvent.releaseLock

/-- Every peer is as the host of this id announced it, and so is its node, which is available. -/
def Informed (hosts : ι → DiscoveryHost) (around : ι → Surroundings) (i : ι)
    (w : UdpWorld) : Prop :=
  ∀ id peer, w.state.peers.entries.get? id = some peer → ∃ j, j ≠ i ∧ id = (hosts j).identity.nodeId
    ∧ peer.Carries ((hosts j).announced (around j))
    ∧ ∃ node, w.state.registry.getNode id = some node
    ∧ node.Presents ((hosts j).announced (around j))
      ∧ node.state = .available

/-- A packet is kept, with a node that is available unless nothing has changed. -/
theorem hear_eq (hosts : ι → DiscoveryHost)
    (hport : ∀ port, rules.validatePort (.int port) = some (.int port)) (hquiet : w.Quiet) (j : ι)
    (around : Surroundings) (time : DateTime) :
    ∃ peer, peer.Carries ((hosts j).announced around)
      ∧ (hear rules time ((hosts j).announced around) w).Quiet
      ∧ (hear rules time ((hosts j).announced around) w).state.peers = w.state.peers.put peer
      ∧ ((hear rules time ((hosts j).announced around) w).state.registry
          = EcosystemDiscoveryService.ingestUdpPeer peer w.state.registry
        ∨ (w.state.peers.entries.get? (hosts j).identity.nodeId).isSome
          ∧ (hear rules time ((hosts j).announced around) w).state.registry
            = w.state.registry) := by
  obtain ⟨state, tasks, locked, published, seen⟩ := w
  obtain ⟨rfl, rfl, rfl⟩ : published = [] ∧ tasks = [] ∧ locked = false :=
    ⟨hquiet.published, hquiet.tasks, hquiet.unlocked⟩
  have hhear : hear rules time ((hosts j).announced around) ⟨state, [], false, [], seen⟩
      = (UdpWorld.locking rules time ((hosts j).announced around)
        ⟨state, [], false, [], seen ++ [(hosts j).identity.nodeId]⟩).handleEvent.releaseLock := rfl
  rw [hhear, UdpWorld.locking]
  cases hexisting : state.peers.entries.get? ((hosts j).announced around).nodeId with
  | none =>
      have hnew : ∃ peer, DiscoveryService.newPeer rules time ((hosts j).announced around)
          = some peer := by
        rw [DiscoveryService.newPeer, DiscoveryHost.announced, hport]
        exact ⟨_, rfl⟩
      obtain ⟨peer, hnew⟩ := hnew
      rw [hnew]
      have hheard : DiscoveryService.heard rules time ((hosts j).announced around) {}
          = some (peer, true) := by
        rw [DiscoveryService.heard]
        exact congrArg (Option.map (·, true)) hnew
      obtain ⟨hnodeName, haddress, hpeerPort, hversion, hmetadata⟩ :=
        DiscoveryService.fields_of_heard hport ⟨⟨_, rfl⟩, ⟨_, rfl⟩, ⟨_, rfl⟩, ⟨_, rfl⟩⟩ hheard
      exact ⟨peer,
        ⟨DiscoveryService.newPeer_nodeId hnew, hnodeName, haddress, hpeerPort, hversion, hmetadata⟩,
        ⟨rfl, rfl, rfl⟩, rfl, Or.inl rfl⟩
  | some existing =>
      have hcarries := carries_updatedPeer (a := (hosts j).announced around)
        (state.peers.keyed _ _ hexisting) time
      refine ⟨_, hcarries, ?_⟩
      dsimp only
      split_ifs
      · exact ⟨⟨rfl, rfl, rfl⟩, rfl, Or.inl rfl⟩
      · exact ⟨⟨rfl, rfl, rfl⟩, rfl, Or.inr ⟨hexisting ▸ rfl, rfl⟩⟩

theorem Informed.hear (hids : Function.Injective fun i => (hosts i).identity.nodeId)
    (hport : ∀ port, rules.validatePort (.int port) = some (.int port)) {around : ι → Surroundings}
    (h : Informed hosts around i w) (hquiet : w.Quiet) {j : ι} (hij : j ≠ i) (time : DateTime) :
    Informed hosts around i (hear rules time ((hosts j).announced (around j)) w) := by
  obtain ⟨peer, hcarries, -, hpeers, hregistry⟩ := hear_eq hosts hport hquiet j (around j) time
  have htyped : ((hosts j).announced (around j)).WellTyped :=
    ⟨⟨_, rfl⟩, ⟨_, rfl⟩, ⟨_, rfl⟩, ⟨_, rfl⟩⟩
  intro id known hknown
  rw [hpeers, PeerMap.put, Dict.get?_set] at hknown
  by_cases hid : id = peer.nodeId
  · rw [if_pos hid, Option.some.injEq] at hknown
    subst hknown
    refine ⟨j, hij, hid.trans hcarries.nodeId, hcarries, ?_⟩
    rcases hregistry with hregistry | ⟨hsome, hregistry⟩
    · obtain ⟨nodeName, protocolVersion, fields, hnodeName, hversion, hfields⟩ :
          ∃ nodeName protocolVersion fields, peer.nodeName = .str nodeName
            ∧ peer.protocolVersion = .str protocolVersion ∧ peer.metadata = .dict fields :=
        ⟨_, _, _, hcarries.nodeName, hcarries.protocolVersion, hcarries.metadata⟩
      obtain ⟨node, hpresents, hingest⟩ := hcarries.presents htyped w.state.registry
      have hnode : (EcosystemDiscoveryService.ingestUdpPeer peer w.state.registry).getNode id
          = some node := by
        rw [hingest, EcosystemRegistry.getNode_registerNode]
        exact if_pos (hid.trans (hcarries.nodeId.trans hpresents.nodeId.symm))
      refine ⟨node, hregistry ▸ hnode, hpresents, ?_⟩
      rw [EcosystemDiscoveryService.ingestUdpPeer, hnodeName, hversion, hfields] at hnode
      dsimp only at hnode
      rw [EcosystemRegistry.getNode_registerNode] at hnode
      cases (if_pos hid).symm.trans hnode
      rfl
    · obtain ⟨before, hbefore⟩ := Option.isSome_iff_exists.mp hsome
      obtain ⟨j', -, hj', -, hnode⟩ := h _ before hbefore
      obtain rfl : j = j' := hids hj'
      rw [hregistry, hid.trans hcarries.nodeId]
      exact hnode
  · rw [if_neg hid] at hknown
    obtain ⟨k, hk, hidk, hcarries', node, hnode, hpresents, hstate⟩ := h id known hknown
    refine ⟨k, hk, hidk, hcarries', node, ?_, hpresents, hstate⟩
    rcases hregistry with hregistry | ⟨-, hregistry⟩
    · rw [hregistry, EcosystemDiscoveryService.getNode_ingestUdpPeer_other hid]
      exact hnode
    · rw [hregistry]
      exact hnode

theorem handle_of_quiet (hquiet : w.Quiet) :
    (UdpWorld.updatePeer rules 0 w).handleEvent.releaseLock = w := by
  obtain ⟨state, tasks, locked, published, seen⟩ := w
  obtain ⟨rfl, rfl, rfl⟩ : published = [] ∧ tasks = [] ∧ locked = false :=
    ⟨hquiet.published, hquiet.tasks, hquiet.unlocked⟩
  rfl

/-- All hosts are quiet, and the air holds one packet of each sender. -/
structure Settled (hosts : ι → DiscoveryHost) (around : ι → Surroundings)
    (packet : ι → Packet) (senders : List ι) (lan : Lan ι UdpWorld Packet) : Prop where
  air : lan.air = senders.map packet
  quiet : ∀ i, (lan.party i).Quiet
  informed : ∀ i, Informed hosts around i (lan.party i)

theorem settled_silent (hosts : ι → DiscoveryHost) (now : DateTime) (fabrics : ι → LocalFabric)
    (around : ι → Surroundings) (packet : ι → Packet) (senders : List ι) :
    Settled hosts around packet senders { silentNetwork hosts now fabrics with
      air := senders.map packet } := by
  refine ⟨rfl, fun _ => ⟨rfl, rfl, rfl⟩, fun j id peer hpeer => ?_⟩
  change (∅ : Dict Peer).get? id = some peer at hpeer
  rw [Dict.get?_empty] at hpeer
  cases hpeer

theorem exists_packet (floatRepr : String → String)
    (hrules : DiscoveryHost.Recognized rules hosts) (j : ι) (around : Surroundings) :
    ∃ packet, (discoveryParties rules floatRepr hosts).emit j around = some packet := by
  obtain ⟨data, hdata, -⟩ := hrules.received floatRepr j around
  refine ⟨((hosts j).address, data), ?_⟩
  change ((hosts j).broadcast around).toOption.map _ = _
  rw [hdata]
  rfl

variable [DecidableEq ι]

/-- A packet reaches a host, and the host does all that follows from it. -/
def hearing (delivery : ι × ℕ × DateTime) :
    List (LanAction ι Surroundings DateTime DiscoveryTask) :=
  [.deliver delivery.1 delivery.2.1 delivery.2.2, .act delivery.1 (.updatePeer 0),
    .act delivery.1 .handleEvent, .act delivery.1 .releaseLock]

/-- What comes of it, where the packets are those of the senders. -/
def listen (rules : DiscoveryRules) (hosts : ι → DiscoveryHost)
    (around : ι → Surroundings) (senders : List ι) (delivery : ι × ℕ × DateTime) (w : UdpWorld) :
    UdpWorld :=
  match senders[delivery.2.1]? with
  | some j =>
      if j = delivery.1 then w else hear rules delivery.2.2 ((hosts j).announced (around j)) w
  | none => w

variable {around : ι → Surroundings} {packet : ι → Packet} {senders : List ι}
  {lan : Lan ι UdpWorld Packet}

theorem run_hearing (hrules : DiscoveryHost.Recognized rules hosts)
    (hnames : ∀ i, (hosts i).identity.nodeName ≠ "")
    (hids : Function.Injective fun i => (hosts i).identity.nodeId)
    (hpacket : ∀ j, (discoveryParties rules floatRepr hosts).emit j (around j) = some (packet j))
    (h : Settled hosts around packet senders lan) (delivery : ι × ℕ × DateTime) :
    run (Lan.step (discoveryParties rules floatRepr hosts)) lan (hearing delivery)
      = lan.change delivery.1 (listen rules hosts around senders delivery) := by
  obtain ⟨i, k, time⟩ := delivery
  have hacts (f : UdpWorld → UdpWorld) :
      run (Lan.step (discoveryParties rules floatRepr hosts)) (lan.change i f)
          [.act i (.updatePeer 0), .act i .handleEvent, .act i .releaseLock]
        = lan.change i fun w => (UdpWorld.updatePeer rules 0 (f w)).handleEvent.releaseLock := by
    simp only [run_cons, run_nil, Lan.step, Lan.change, Function.update_self, Function.update_idem]
    rfl
  have hself : lan.change i id = lan := by
    rw [Lan.change, id, Function.update_eq_self]
  have hchange {f g : UdpWorld → UdpWorld} (hfg : f (lan.party i) = g (lan.party i)) :
      lan.change i f = lan.change i g := by
    rw [Lan.change, Lan.change, hfg]
  cases hk : senders[k]? with
  | none =>
      have hair : lan.air[k]? = none := by
        rw [h.air, List.getElem?_map, hk, Option.map_none]
      have hdeliver : Lan.step (discoveryParties rules floatRepr hosts) lan (.deliver i k time)
          = lan.change i id := by
        rw [Lan.step, hair, hself]
      rw [hearing, run_cons, hdeliver, hacts]
      refine hchange ?_
      rw [listen, hk]
      exact handle_of_quiet (h.quiet i)
  | some j =>
      have hair : lan.air[k]? = some (packet j) := by
        rw [h.air, List.getElem?_map, hk, Option.map_some]
      have hdeliver : Lan.step (discoveryParties rules floatRepr hosts) lan (.deliver i k time)
          = lan.change i ((discoveryParties rules floatRepr hosts).receive i time (packet j)) := by
        rw [Lan.step, hair]
      have hreceive : (discoveryParties rules floatRepr hosts).receive i time
        (packet j) (lan.party i)
          = if j = i then lan.party i else (lan.party i).enqueue time
            ((hosts j).announced (around j)) := by
        obtain ⟨data, hdata, hreceived⟩ := hrules.received floatRepr j (around j)
        have hsent := hpacket j
        change ((hosts j).broadcast (around j)).toOption.map _ = some (packet j) at hsent
        rw [hdata] at hsent
        have heq : ((hosts j).address, data) = packet j := Option.some.inj hsent
        rw [← heq]
        change (UdpWorld.datagramReceived rules (JsonValue.loads floatRepr)
          (some (hosts i).identity) time data
          (hosts j).address (lan.party i)).toOption.getD (lan.party i) = _
        rw [hreceived]
        by_cases hij : j = i
        · rw [if_pos hij, if_pos (Or.inr (hij ▸ rfl))]
          rfl
        · have hother : ¬((hosts j).identity.nodeName = ""
            ∨ (hosts i).identity.nodeId = (hosts j).identity.nodeId) :=
            not_or.mpr ⟨hnames j, fun hsame => hij (hids hsame.symm)⟩
          rw [if_neg hij, if_neg hother]
          rfl
      rw [hearing, run_cons, hdeliver, hacts]
      refine hchange ?_
      rw [hreceive, listen, hk]
      dsimp only
      split_ifs
      · exact handle_of_quiet (h.quiet i)
      · rfl

theorem Settled.change (h : Settled hosts around packet senders lan) {i : ι}
    {f : UdpWorld → UdpWorld} (hquiet : (f (lan.party i)).Quiet)
    (hinformed : Informed hosts around i (f (lan.party i))) :
    Settled hosts around packet senders (lan.change i f) := by
  have hparty (P : ι → UdpWorld → Prop) (hi : P i (f (lan.party i)))
    (hall : ∀ j, P j (lan.party j)) (j : ι) :
      P j ((lan.change i f).party j) := by
    rw [Lan.change]
    by_cases hj : j = i
    · subst hj
      dsimp only
      rw [Function.update_self]
      exact hi
    · dsimp only
      rw [Function.update_of_ne hj]
      exact hall j
  exact ⟨h.air, hparty (fun _ w => w.Quiet) hquiet h.quiet,
    hparty (Informed hosts around) hinformed h.informed⟩

def Knows (w : UdpWorld) (id : String) : Prop := (w.state.peers.entries.get? id).isSome

/-- A host that listens to another knows it from then on, and forgets nobody. -/
theorem Settled.listening (hrules : DiscoveryHost.Recognized rules hosts)
    (hids : Function.Injective fun i => (hosts i).identity.nodeId)
    (h : Settled hosts around packet senders lan) (delivery : ι × ℕ × DateTime) :
    Settled hosts around packet senders
      (lan.change delivery.1 (listen rules hosts around senders delivery))
      ∧ (∀ id, Knows (lan.party delivery.1) id →
        Knows (listen rules hosts around senders delivery (lan.party delivery.1)) id)
      ∧ ∀ j, senders[delivery.2.1]? = some j → j ≠ delivery.1 →
        Knows (listen rules hosts around senders delivery (lan.party delivery.1))
          (hosts j).identity.nodeId := by
  obtain ⟨i, k, time⟩ := delivery
  cases hk : senders[k]? with
  | none =>
      have hlisten : listen rules hosts around senders (i, k, time) (lan.party i)
          = lan.party i := by
        rw [listen, hk]
      refine ⟨h.change ?_ ?_, fun id hknows => ?_, nofun⟩
      · rw [hlisten]
        exact h.quiet i
      · rw [hlisten]
        exact h.informed i
      · rw [hlisten]
        exact hknows
  | some j =>
      by_cases hij : j = i
      · have hlisten : listen rules hosts around senders (i, k, time) (lan.party i)
            = lan.party i := by
          rw [listen, hk]
          exact if_pos hij
        refine ⟨h.change ?_ ?_, fun id hknows => ?_,
          fun j' hj' hne => absurd (Option.some.inj hj' ▸ hij) hne⟩
        · rw [hlisten]
          exact h.quiet i
        · rw [hlisten]
          exact h.informed i
        · rw [hlisten]
          exact hknows
      · have hlisten : listen rules hosts around senders (i, k, time) (lan.party i)
            = hear rules time ((hosts j).announced (around j)) (lan.party i) := by
          rw [listen, hk]
          exact if_neg hij
        obtain ⟨peer, hcarries, hquiet, hpeers, -⟩ :=
          hear_eq hosts hrules.port (h.quiet i) j (around j) time
        have hput (id : String) :
            (hear rules time ((hosts j).announced (around j))
              (lan.party i)).state.peers.entries.get? id = if id = peer.nodeId then some peer
                else (lan.party i).state.peers.entries.get? id := by
          rw [hpeers, PeerMap.put, Dict.get?_set]
        refine ⟨h.change ?_ ?_, fun id hknows => ?_, fun j' hj' _ => ?_⟩
        · rw [hlisten]
          exact hquiet
        · rw [hlisten]
          exact (h.informed i).hear hids hrules.port (h.quiet i) hij time
        · rw [hlisten, Knows, hput]
          split_ifs
          · rfl
          · exact hknows
        · obtain rfl : j = j' := Option.some.inj hj'
          have hid : (hosts j).identity.nodeId = peer.nodeId := hcarries.nodeId.symm
          rw [hlisten, Knows, hput, if_pos hid]
          rfl

/-- By induction on the deliveries. -/
theorem Settled.run_hearings (hrules : DiscoveryHost.Recognized rules hosts)
    (hnames : ∀ i, (hosts i).identity.nodeName ≠ "")
    (hids : Function.Injective fun i => (hosts i).identity.nodeId)
    (hpacket : ∀ j, (discoveryParties rules floatRepr hosts).emit j (around j) = some (packet j))
    (h : Settled hosts around packet senders lan) (deliveries : List (ι × ℕ × DateTime)) :
    Settled hosts around packet senders
        (run (Lan.step (discoveryParties rules floatRepr hosts)) lan (deliveries.flatMap hearing))
      ∧ (∀ i id, Knows (lan.party i) id →
        Knows
          ((run (Lan.step (discoveryParties rules floatRepr hosts)) lan
            (deliveries.flatMap hearing)).party i) id)
      ∧ ∀ delivery ∈ deliveries, ∀ j, senders[delivery.2.1]? = some j → j ≠ delivery.1 →
        Knows
          ((run (Lan.step (discoveryParties rules floatRepr hosts)) lan
            (deliveries.flatMap hearing)).party
            delivery.1) (hosts j).identity.nodeId := by
  induction deliveries generalizing lan with
  | nil => exact ⟨h, fun _ _ hknows => hknows, nofun⟩
  | cons delivery deliveries ih =>
      rw [List.flatMap_cons, run_append, run_hearing hrules hnames hids hpacket h]
      obtain ⟨hsettled, hkept, hheard⟩ := h.listening hrules hids delivery
      obtain ⟨hfinal, hkeeps, hhears⟩ := ih hsettled
      have hself :
        (lan.change delivery.1 (listen rules hosts around senders delivery)).party delivery.1
          = listen rules hosts around senders delivery (lan.party delivery.1) :=
            Function.update_self ..
      refine ⟨hfinal, fun i id hknows => hkeeps i id ?_,
        List.forall_mem_cons.mpr ⟨fun j hj hij => ?_, hhears⟩⟩
      · by_cases hi : i = delivery.1
        · rw [hi, hself]
          exact hkept id (hi ▸ hknows)
        · have hother : (lan.change delivery.1 (listen rules hosts around senders delivery)).party i
            = lan.party i :=
            Function.update_of_ne hi ..
          rw [hother]
          exact hknows
      · refine hkeeps delivery.1 _ ?_
        rw [hself]
        exact hheard j hj hij

/-- The host lists just the others, as they announced themselves and available. -/
structure Discovered (hosts : ι → DiscoveryHost) (around : ι → Surroundings) (i : ι)
    (w : UdpWorld) : Prop where
  others : ∀ j, j ≠ i → ∃ peer, w.state.peers.entries.get? (hosts j).identity.nodeId = some peer
    ∧ peer.Carries ((hosts j).announced (around j))
    ∧ ∃ node, w.state.registry.getNode (hosts j).identity.nodeId = some node
      ∧ node.Presents ((hosts j).announced (around j)) ∧ node.state = .available
  only : ∀ id, Knows w id → ∃ j, j ≠ i ∧ id = (hosts j).identity.nodeId

/-- The senders announce themselves, and packets reach hosts. -/
def exchange (around : ι → Surroundings) (senders : List ι) (deliveries : List (ι × ℕ × DateTime)) :
    List (LanAction ι Surroundings DateTime DiscoveryTask) :=
  senders.map (fun j => .send j (around j)) ++ deliveries.flatMap hearing

theorem run_sends
    (hpacket : ∀ j, (discoveryParties rules floatRepr hosts).emit j (around j) = some (packet j))
    (senders : List ι) (lan : Lan ι UdpWorld Packet) :
    run (Lan.step (discoveryParties rules floatRepr hosts)) lan
      (senders.map fun j => LanAction.send j (around j))
      = { lan with air := lan.air ++ senders.map packet } := by
  induction senders generalizing lan with
  | nil => rw [List.map_nil, List.map_nil, run_nil, List.append_nil]
  | cons j senders ih =>
      rw [List.map_cons, run_cons, ih, Lan.step, hpacket, List.map_cons, Option.toList_some,
        List.append_assoc, List.singleton_append]

/-- **One exchange.** When every host has announced itself once and every packet has reached every
host, in any order and any number of times, each host lists just the others, as they announced
themselves and available. -/
theorem exchange_discovers (rules : DiscoveryRules) (floatRepr : String → String)
    (hosts : ι → DiscoveryHost) (hrules : DiscoveryHost.Recognized rules hosts)
    (hnames : ∀ i, (hosts i).identity.nodeName ≠ "")
    (hids : Function.Injective fun i => (hosts i).identity.nodeId) (now : DateTime)
    (fabrics : ι → LocalFabric) (around : ι → Surroundings) (senders : List ι)
    (hsenders : ∀ i, i ∈ senders) (deliveries : List (ι × ℕ × DateTime))
    (hdelivered : ∀ i, ∀ k < senders.length, ∃ time, (i, k, time) ∈ deliveries) (i : ι) :
    Discovered hosts around i
      ((run (Lan.step (discoveryParties rules floatRepr hosts)) (silentNetwork hosts now fabrics)
        (exchange around senders deliveries)).party i) := by
  choose packet hpacket using fun j => exists_packet floatRepr hrules j (around j)
  have hsettled := settled_silent hosts now fabrics around packet senders
  obtain ⟨hfinal, -, hheard⟩ := hsettled.run_hearings hrules hnames hids hpacket deliveries
  rw [exchange, run_append, run_sends hpacket]
  refine ⟨fun j hij => ?_, fun id hknows => ?_⟩
  · obtain ⟨k, hk, hjk⟩ := List.getElem_of_mem (hsenders j)
    obtain ⟨time, hmem⟩ := hdelivered i k hk
    have hknows := hheard (i, k, time) hmem j (List.getElem?_eq_some_iff.mpr ⟨hk, hjk⟩) hij
    obtain ⟨peer, hpeer⟩ := Option.isSome_iff_exists.mp hknows
    obtain ⟨j', -, hj', hcarries, hnode⟩ := hfinal.informed i _ peer hpeer
    obtain rfl : j = j' := hids hj'
    exact ⟨peer, hpeer, hcarries, hnode⟩
  · obtain ⟨peer, hpeer⟩ := Option.isSome_iff_exists.mp hknows
    obtain ⟨j, hij, hid, -⟩ := hfinal.informed i id peer hpeer
    exact ⟨j, hij, hid⟩

theorem names_home (laptop : Bool) : (homeHosts laptop).identity.nodeName ≠ "" := by
  cases laptop <;> decide

theorem injective_home : Function.Injective fun laptop => (homeHosts laptop).identity.nodeId := by
  intro laptop laptop' h
  cases laptop <;> cases laptop' <;> first | rfl | exact absurd h (by decide)

theorem exchange_discovers_home :
    Discovered homeHosts (fun _ => {}) false
      ((run (Lan.step (discoveryParties UdpWorld.laptopRules id homeHosts))
        (silentNetwork homeHosts .epoch fun _ => {}) (exchange (fun _ => {}) [true, false]
          [(false, 1, .epoch), (true, 0, .epoch), (false, 0, .epoch),
            (true, 1, .epoch)])).party false) := by
  refine exchange_discovers UdpWorld.laptopRules id homeHosts recognized_home names_home
    injective_home .epoch
    (fun _ => {}) (fun _ => {}) [true, false] ?_ _ ?_ false
  · decide
  · intro laptop k hk
    have hk : k = 0 ∨ k = 1 := by
      simp only [List.length_cons, List.length_nil] at hk
      omega
    refine ⟨.epoch, ?_⟩
    cases laptop <;> rcases hk with rfl | rfl <;> simp

end Exchange

end Shyam
