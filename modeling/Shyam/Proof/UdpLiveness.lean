import Shyam.Discovery.Liveness
import Shyam.Proof.Announcements
import Shyam.Proof.Provenance

/-!
# UDP liveness and the registry

A peer that is kept has an available node, one that is lost has an unavailable node, once everything
is handled. The exception is a peer that is heard again when it is dropped and its loss is not
published yet: the loss comes last. A round that drops a single peer publishes its loss at once.
-/

namespace Shyam

open Python Transition

namespace DiscoveryService

/-- Where a peer stands that was heard of: it is kept, its loss has still to be
published, or it is gone. -/
inductive Known (s : DiscoveryState) (id : String) : Prop where
  | kept (node : DiscoveredNode) (hpeer : (s.peers.entries.get? id).isSome) (hlost : id ∉ s.lost)
      (hnode : s.registry.getNode id = some node) (hlocal : node.isLocal = false)
      (hstate : node.state = .available)
  | unreported (node : DiscoveredNode) (hpeer : s.peers.entries.get? id = none)
      (hlost : id ∈ s.lost) (hnode : s.registry.getNode id = some node)
      (hlocal : node.isLocal = false)
  | gone (node : DiscoveredNode) (hpeer : s.peers.entries.get? id = none) (hlost : id ∉ s.lost)
      (hnode : s.registry.getNode id = some node) (hstate : node.state = .unavailable)

def Unheard (s : DiscoveryState) (id : String) : Prop :=
  s.peers.entries.get? id = none ∧ id ∉ s.lost

structure Consistent (s : DiscoveryState) : Prop where
  nodup : s.lost.Nodup
  stands : ∀ id, Known s id ∨ Unheard s id

variable {rules : DiscoveryRules} {now : DateTime} {a : Announcement} {s s' : DiscoveryState}
  {id : String}

theorem notMem_lost_iff_of_view (h : view id s = view id s') : id ∉ s.lost ↔ id ∉ s'.lost := by
  rw [mem_lost_iff, mem_lost_iff, h]

theorem Known.of_view (h : view id s = view id s') (hknown : Known s id) : Known s' id := by
  obtain ⟨hpeers, hregistry, -⟩ := view_eq_iff.mp h
  have hlost' := notMem_lost_iff_of_view h
  cases hknown with
  | kept node hpeer hlost hnode hlocal hstate =>
      exact .kept node (hpeers ▸ hpeer) (hlost'.mp hlost) (hregistry ▸ hnode) hlocal hstate
  | unreported node hpeer hlost hnode hlocal =>
      exact .unreported node (hpeers ▸ hpeer) (not_not.mp (mt hlost'.mpr (not_not.mpr hlost)))
        (hregistry ▸ hnode) hlocal
  | gone node hpeer hlost hnode hstate =>
      exact .gone node (hpeers ▸ hpeer) (hlost'.mp hlost) (hregistry ▸ hnode) hstate

theorem Unheard.of_view (h : view id s = view id s') (hunheard : Unheard s id) : Unheard s' id :=
  ⟨(view_eq_iff.mp h).1 ▸ hunheard.1, (notMem_lost_iff_of_view h).mp hunheard.2⟩

/-! ### Updates -/

/-- A well typed announcement is heard. -/
theorem exists_heard (hport : ∀ i, rules.validatePort (.int i) = some (.int i))
    (htyped : a.WellTyped) (now : DateTime) (s : DiscoveryState) :
    ∃ peer passedOn, heard rules now a s = some (peer, passedOn)
      ∧ ((s.peers.entries.get? a.nodeId).isSome = false → passedOn = true) := by
  obtain ⟨nodeName, hnodeName⟩ := htyped.nodeName
  obtain ⟨port, hi⟩ := htyped.port
  obtain ⟨protocolVersion, hprotocolVersion⟩ := htyped.protocolVersion
  obtain ⟨fields, hfields⟩ := htyped.metadata
  rw [heard]
  cases s.peers.entries.get? a.nodeId with
  | none =>
      rw [newPeer, hnodeName, hi, hport, hprotocolVersion, hfields]
      exact ⟨_, true, rfl, fun _ => rfl⟩
  | some existing => exact ⟨_, _, rfl, fun h => by cases h⟩

theorem exists_getNode_ingest (hport : ∀ i, rules.validatePort (.int i) = some (.int i))
    (htyped : a.WellTyped) {peer : Peer} {passedOn : Bool}
    (hheard : heard rules now a s = some (peer, passedOn)) (registry : EcosystemRegistry) :
    ∃ node, (EcosystemDiscoveryService.ingestUdpPeer peer registry).getNode a.nodeId = some node
      ∧ node.isLocal = false ∧ node.state = .available := by
  obtain ⟨nodeName, protocolVersion, fields, -, hingest⟩ :=
    ingest_of_heard hport htyped hheard registry
  rw [hingest, EcosystemRegistry.getNode_registerNode]
  exact ⟨_, if_pos (nodeId_of_heard hheard).symm, rfl, rfl⟩

theorem Known.updatePeer_self (hport : ∀ i, rules.validatePort (.int i) = some (.int i))
    (htyped : a.WellTyped) (hstands : Known s a.nodeId ∨ Unheard s a.nodeId)
    (hlost : a.nodeId ∉ s.lost) :
    Known (updatePeer rules now a s) a.nodeId := by
  obtain ⟨peer, passedOn, hheard, hnew⟩ := exists_heard hport htyped now s
  rw [updatePeer_eq, hheard]
  have hpeer : ((keep s (some (peer, passedOn))).peers.entries.get? a.nodeId).isSome := by
    rw [keep, get?_put, if_pos (nodeId_of_heard hheard).symm]
    rfl
  cases passedOn with
  | true =>
      obtain ⟨node, hnode, hlocal, hstate⟩ := exists_getNode_ingest hport htyped hheard s.registry
      exact .kept node hpeer hlost hnode hlocal hstate
  | false =>
      -- an unchanged peer has its node already
      have hsome : s.peers.entries.get? a.nodeId ≠ none := by
        intro hnone
        rw [hnone] at hnew
        cases hnew rfl
      obtain hknown | hunheard := hstands
      · cases hknown with
        | kept node _ _ hnode hlocal hstate => exact .kept node hpeer hlost hnode hlocal hstate
        | unreported node hnone _ _ _ => exact absurd hnone hsome
        | gone node hnone _ _ _ => exact absurd hnone hsome
      · exact absurd hunheard.1 hsome

theorem Known.updatePeer (hport : ∀ i, rules.validatePort (.int i) = some (.int i))
    (htyped : a.WellTyped) (hlost : a.nodeId ∉ s.lost) (hknown : Known s id) :
    Known (updatePeer rules now a s) id := by
  by_cases hid : a.nodeId = id
  · subst hid
    exact updatePeer_self hport htyped (Or.inl hknown) hlost
  · exact hknown.of_view (view_updatePeer_other hid).symm

theorem lost_updatePeer : (updatePeer rules now a s).lost = s.lost := by
  rw [updatePeer_eq]
  cases heard rules now a s with
  | none => rfl
  | some told => rfl

theorem Consistent.updatePeer (hport : ∀ i, rules.validatePort (.int i) = some (.int i))
    (htyped : a.WellTyped) (hlost : a.nodeId ∉ s.lost) (h : Consistent s) :
    Consistent (updatePeer rules now a s) where
  nodup := by
    rw [lost_updatePeer]
    exact h.nodup
  stands id := by
    by_cases hid : a.nodeId = id
    · subst hid
      exact Or.inl (.updatePeer_self hport htyped (h.stands a.nodeId) hlost)
    · obtain hknown | hunheard := h.stands id
      · exact Or.inl (hknown.of_view (view_updatePeer_other hid).symm)
      · exact Or.inr (hunheard.of_view (view_updatePeer_other hid).symm)

/-! ### Losses -/

/-- The ids that a round drops. -/
def dropped (rules : DiscoveryRules) (now : DateTime) (s : DiscoveryState) : List String :=
  (s.peers.filter fun peer => rules.expired now peer.lastSeen).entries.keys.elems

theorem mem_dropped_iff : id ∈ dropped rules now s
    ↔ ∃ peer, s.peers.entries.get? id = some peer ∧ rules.expired now peer.lastSeen = true := by
  rw [dropped, ← List.count_pos_iff, count_expired]
  cases s.peers.entries.get? id with
  | none => simp
  | some peer => cases hexpired : rules.expired now peer.lastSeen <;> simp [hexpired]

theorem get?_peers_reap (rules : DiscoveryRules) (now : DateTime)
    (s : DiscoveryState) (id : String) :
    (reap rules now s).peers.entries.get? id
      = (s.peers.entries.get? id).filter fun peer => !rules.expired now peer.lastSeen := by
  rw [reap, PeerMap.filter, Dict.get?_filter]

theorem Known.reap (hlost : s.lost = []) (hknown : Known s id) : Known (reap rules now s) id := by
  have hlost' : (DiscoveryService.reap rules now s).lost = dropped rules now s := by
    rw [DiscoveryService.reap, hlost, List.nil_append]
    rfl
  cases hknown with
  | kept node hpeer _ hnode hlocal hstate =>
      obtain ⟨peer, hget⟩ := Option.isSome_iff_exists.mp hpeer
      have hnext := get?_peers_reap rules now s id
      rw [hget] at hnext
      cases hexpired : rules.expired now peer.lastSeen with
      | true =>
          refine .unreported node ?_ ?_ hnode hlocal
          · rw [hnext, Option.filter_some, hexpired]
            rfl
          · rw [hlost']
            exact mem_dropped_iff.mpr ⟨peer, hget, hexpired⟩
      | false =>
          refine .kept node ?_ ?_ hnode hlocal hstate
          · rw [hnext, Option.filter_some, hexpired]
            rfl
          · rw [hlost', mem_dropped_iff]
            rintro ⟨peer', hget', hexpired'⟩
            cases hget.symm.trans hget'
            cases hexpired.symm.trans hexpired'
  | unreported node _ hmem _ _ =>
      rw [hlost] at hmem
      cases hmem
  | gone node hpeer _ hnode hstate =>
      refine .gone node ?_ ?_ hnode hstate
      · rw [get?_peers_reap, hpeer]
        rfl
      · rw [hlost', mem_dropped_iff, hpeer]
        rintro ⟨peer, hget, -⟩
        cases hget

theorem Consistent.reap (hlost : s.lost = []) (h : Consistent s) :
    Consistent (reap rules now s) where
  nodup := by
    rw [DiscoveryService.reap, hlost, List.nil_append]
    exact PySet.nodup _
  stands id := by
    obtain hknown | hunheard := h.stands id
    · exact Or.inl (hknown.reap hlost)
    · refine Or.inr ⟨?_, ?_⟩
      · rw [get?_peers_reap, hunheard.1]
        rfl
      · rw [DiscoveryService.reap, hlost, List.nil_append]
        change id ∉ dropped rules now s
        rw [mem_dropped_iff, hunheard.1]
        rintro ⟨peer, hget, -⟩
        cases hget

theorem Known.peerLost (hnodup : s.lost.Nodup) {lostId : String} (hmem : lostId ∈ s.lost)
    (hknown : Known s id) : Known (peerLost lostId s) id := by
  by_cases hid : id = lostId
  · subst hid
    cases hknown with
    | kept node _ hlost _ _ _ => exact absurd hmem hlost
    | gone node _ hlost _ _ => exact absurd hmem hlost
    | unreported node hpeer _ hnode hlocal =>
        rw [DiscoveryService.peerLost, if_pos hmem]
        refine .gone (node.withState .unavailable) hpeer hnodup.not_mem_erase ?_ rfl
        dsimp only
        rw [EcosystemDiscoveryService.getNode_handleUdpPeerLost, hnode, Option.map_some,
          if_pos ⟨rfl, hlocal⟩]
  · exact hknown.of_view (view_peerLost_other hid).symm

theorem Consistent.peerLost (h : Consistent s) {lostId : String} (hmem : lostId ∈ s.lost) :
    Consistent (peerLost lostId s) where
  nodup := by
    rw [DiscoveryService.peerLost, if_pos hmem]
    exact h.nodup.erase lostId
  stands id := by
    obtain hknown | hunheard := h.stands id
    · exact Or.inl (hknown.peerLost h.nodup hmem)
    · have hid : id ≠ lostId := fun hid => hunheard.2 (hid ▸ hmem)
      exact Or.inr (hunheard.of_view (view_peerLost_other hid).symm)

end DiscoveryService

namespace UdpWorld

open DiscoveryService

/-- Every published event is handled, and no task is pending. -/
structure Quiet (w : UdpWorld) : Prop where
  published : w.published = []
  tasks : w.tasks = []
  unlocked : w.locked = false

/-- The node is available when the peer is kept, and unavailable when it is not. -/
def Agrees (w : UdpWorld) (id : String) : Prop :=
  ∃ node, w.state.registry.getNode id = some node
    ∧ node.state = if (w.state.peers.entries.get? id).isSome then .available else .unavailable

/-- The announcements that the datagrams hold are well typed. -/
def WellFormed (rules : DiscoveryRules) (actions : List UdpAction) : Prop :=
  ∀ now payload remoteIp a, UdpAction.datagram now payload remoteIp ∈ actions →
    parse rules payload remoteIp = some a → a.WellTyped

/-- A round that starts drops one peer at most. -/
def SingleLosses (rules : DiscoveryRules) (w : UdpWorld) : UdpAction → Prop
  | .reap now => w.locked = false → w.announcing = false → (dropped rules now w.state).length ≤ 1
  | _ => True

/-- No task gets the lock for a peer whose loss has still to be published. -/
def HeardInTime (w : UdpWorld) : UdpAction → Prop
  | .updatePeer index =>
      ∀ now a, w.tasks[index]? = some (now, a) → w.locked = false → a.nodeId ∉ w.state.lost
  | _ => True

/-- Who was heard of stands somewhere, or a task is pending. -/
structure Accounted (w : UdpWorld) : Prop where
  consistent : Consistent w.settled
  seen : ∀ id ∈ w.seen, Known w.settled id ∨ ∃ task ∈ w.tasks, task.2.nodeId = id
  typed : ∀ task ∈ w.tasks, task.2.WellTyped

variable {rules : DiscoveryRules} {self : LocalIdentity} {now : DateTime} {w w' : UdpWorld}
  {actions : List UdpAction}

theorem Accounted.mono (h : w.Accounted) (hconsistent : Consistent w'.settled)
    (hknown : ∀ id, Known w.settled id → Known w'.settled id) (hseen : w'.seen = w.seen)
    (htasks : w'.tasks = w.tasks) : w'.Accounted where
  consistent := hconsistent
  seen id hid := by
    rw [htasks]
    obtain hstands | hpending := h.seen id (hseen ▸ hid)
    · exact Or.inl (hknown id hstands)
    · exact Or.inr hpending
  typed := by
    rw [htasks]
    exact h.typed

theorem Accounted.of_settled_eq (h : w.Accounted) (hsettled : w'.settled = w.settled)
    (hseen : w'.seen = w.seen) (htasks : w'.tasks = w.tasks) : w'.Accounted := by
  apply h.mono _ _ hseen htasks
  · rw [hsettled]
    exact h.consistent
  · intro id hknown
    rw [hsettled]
    exact hknown

/-! ### Steps -/

theorem Accounted.handleDatagram (h : w.Accounted) {payload : Option PyValue} {remoteIp : String}
    (htyped : ∀ a, parse rules payload remoteIp = some a → a.WellTyped) :
    (handleDatagram rules self now payload remoteIp w).Accounted := by
  rw [UdpWorld.handleDatagram]
  split
  · rename_i a hparse
    split_ifs
    · exact h
    · refine ⟨h.consistent, ?_, ?_⟩
      · intro id hid
        rcases List.mem_append.mp hid with hid | hid
        · obtain hknown | ⟨task, htask, htaskId⟩ := h.seen id hid
          · exact Or.inl hknown
          · exact Or.inr ⟨task, List.mem_append_left _ htask, htaskId⟩
        · have hnew : (now, a) ∈ w.tasks ++ [(now, a)] := List.mem_append_right _ List.mem_cons_self
          exact Or.inr ⟨(now, a), hnew, (List.mem_singleton.mp hid).symm⟩
      · intro task htask
        rcases List.mem_append.mp htask with htask | htask
        · exact h.typed task htask
        · rw [List.mem_singleton.mp htask]
          exact htyped a hparse
  · exact h

theorem seen_locking (a : Announcement) : (locking rules now a w).seen = w.seen := by
  rw [locking]
  split
  · split <;> rfl
  · dsimp only
    split_ifs <;> rfl

theorem Accounted.updatePeer (hport : ∀ i, rules.validatePort (.int i) = some (.int i))
    (h : w.Accounted) {index : ℕ} (htime : w.HeardInTime (.updatePeer index)) :
    (updatePeer rules index w).Accounted := by
  rw [UdpWorld.updatePeer]
  split
  · rename_i now a htask
    cases hlocked : w.locked with
    | true => exact h
    | false =>
        have htyped : a.WellTyped := h.typed (now, a) (List.mem_of_getElem? htask)
        have hlost : a.nodeId ∉ w.settled.lost := htime now a htask hlocked
        rw [if_neg Bool.false_ne_true]
        refine ⟨?_, ?_, ?_⟩
        · rw [settled_locking]
          exact h.consistent.updatePeer hport htyped hlost
        · intro id hid
          rw [seen_locking] at hid
          rw [settled_locking, tasks_locking]
          by_cases hself : a.nodeId = id
          · subst hself
            exact Or.inl (.updatePeer_self hport htyped (h.consistent.stands a.nodeId) hlost)
          · obtain hknown | ⟨task, hmem, hpending⟩ := h.seen id hid
            · exact Or.inl (hknown.updatePeer hport htyped hlost)
            · -- another task, which is still there
              obtain ⟨other, hother⟩ := List.mem_iff_getElem?.mp hmem
              have hne : other ≠ index := by
                rintro rfl
                cases htask.symm.trans hother
                exact hself hpending
              exact Or.inr ⟨task, List.mem_eraseIdx_iff_getElem?.mpr ⟨other, hne, hother⟩, hpending⟩
        · intro task hmem
          rw [tasks_locking] at hmem
          exact h.typed task (List.mem_of_mem_eraseIdx hmem)
  · exact h

theorem Accounted.releaseLock (h : w.Accounted) : w.releaseLock.Accounted := by
  apply h.of_settled_eq (settled_releaseLock w)
  · rw [UdpWorld.releaseLock]
    split_ifs <;> rfl
  · rw [UdpWorld.releaseLock]
    split_ifs <;> rfl

theorem Accounted.handleEvent (h : w.Accounted) : w.handleEvent.Accounted := by
  apply h.of_settled_eq (settled_handleEvent w)
  · rw [UdpWorld.handleEvent]
    split <;> rfl
  · rw [UdpWorld.handleEvent]
    split <;> rfl

theorem Accounted.publishLost (h : w.Accounted) : w.publishLost.Accounted := by
  cases hlost : w.state.lost with
  | nil =>
      rw [UdpWorld.publishLost, hlost]
      exact h
  | cons nodeId lost =>
      have hmem : nodeId ∈ w.settled.lost := by
        change nodeId ∈ w.state.lost
        rw [hlost]
        exact List.mem_cons_self
      have hsettled := settled_publishLost_cons hlost
      apply h.mono
      · rw [hsettled]
        exact h.consistent.peerLost hmem
      · intro id hknown
        rw [hsettled]
        exact hknown.peerLost h.consistent.nodup hmem
      · rw [UdpWorld.publishLost, hlost]
      · rw [UdpWorld.publishLost, hlost]

theorem Accounted.reap (h : w.Accounted) : (reap rules now w).Accounted := by
  rw [UdpWorld.reap]
  split_ifs with hbusy
  · exact h
  · have hlost : w.settled.lost = [] := by
      change w.state.lost = []
      simp only [Bool.or_eq_true, Bool.not_eq_true', not_or, Bool.not_eq_false] at hbusy
      exact List.isEmpty_iff.mp hbusy.2
    apply Accounted.publishLost
    exact h.mono (h.consistent.reap hlost) (fun id hknown => hknown.reap hlost) rfl rfl

theorem Accounted.step (hport : ∀ i, rules.validatePort (.int i) = some (.int i))
    (hwell : WellFormed rules actions) (h : w.Accounted) {action : UdpAction}
    (hmem : action ∈ actions) (htime : w.HeardInTime action) :
    (step rules self w action).Accounted := by
  cases action with
  | datagram now payload remoteIp =>
      exact h.handleDatagram fun a hparse => hwell now payload remoteIp a hmem hparse
  | updatePeer index => exact h.updatePeer hport htime
  | releaseLock => exact h.releaseLock
  | reap now => exact h.reap
  | announceLost =>
      rw [UdpWorld.step, announceLost]
      split_ifs
      · exact h
      · exact h.publishLost
  | handleEvent => exact h.handleEvent

/-- Where rounds drop one peer, no loss waits. -/
theorem lost_step_eq_nil (hlost : w.state.lost = []) {action : UdpAction}
    (hsingle : w.SingleLosses rules action) : (step rules self w action).state.lost = [] := by
  have hsettled : w.settled.lost = [] := hlost
  cases action with
  | datagram now payload remoteIp =>
      exact (congrArg DiscoveryState.lost
        (settled_handleDatagram rules self now payload remoteIp w)).trans
        hsettled
  | updatePeer index =>
      rw [step, updatePeer]
      split
      · rename_i now a htask
        split_ifs
        · exact hlost
        · refine (congrArg DiscoveryState.lost (settled_locking rules now a _)).trans ?_
          rw [lost_updatePeer]
          exact hlost
      · exact hlost
  | releaseLock => exact (congrArg DiscoveryState.lost (settled_releaseLock w)).trans hsettled
  | reap now =>
      rw [step, reap]
      split_ifs with hbusy
      · exact hlost
      · simp only [Bool.or_eq_true, not_or, Bool.not_eq_true] at hbusy
        have hdropped : (DiscoveryService.reap rules now w.state).lost
            = dropped rules now w.state := by
          rw [DiscoveryService.reap, hlost, List.nil_append]
          rfl
        rw [publishLost]
        split
        · rename_i nodeId lost hcons
          have hlength : (nodeId :: lost).length ≤ 1 := by
            rw [← hcons, hdropped]
            exact hsingle hbusy.1.1 hbusy.1.2
          exact List.length_eq_zero_iff.mp (Nat.le_zero.mp (Nat.le_of_succ_le_succ hlength))
        · assumption
  | announceLost =>
      rw [step, announceLost, publishLost, hlost]
      split_ifs
      · exact hlost
      · exact hlost
  | handleEvent => exact (congrArg DiscoveryState.lost (settled_handleEvent w)).trans hsettled

theorem Accounted.agrees (h : w.Accounted) (hquiet : w.Quiet) (hlost : w.state.lost = [])
    (id : String) (hid : id ∈ w.seen) : w.Agrees id := by
  obtain hknown | ⟨task, hmem, -⟩ := h.seen id hid
  · rw [settled_of_published_nil hquiet.published] at hknown
    cases hknown with
    | kept node hpeer _ hnode _ hstate =>
        refine ⟨node, hnode, ?_⟩
        rw [hstate, if_pos hpeer]
    | unreported node _ hmem _ _ =>
        rw [hlost] at hmem
        cases hmem
    | gone node hpeer _ hnode hstate =>
        refine ⟨node, hnode, ?_⟩
        rw [hstate, hpeer]
        rfl
  · rw [hquiet.tasks] at hmem
    cases hmem

theorem accounted_start (self : LocalIdentity) (now : DateTime) (fabric : LocalFabric) :
    (start self now fabric).Accounted where
  consistent :=
    { nodup := List.nodup_nil
      stands := fun _ => Or.inr ⟨rfl, List.not_mem_nil⟩ }
  seen _ hid := nomatch hid
  typed _ htask := nomatch htask

/-- **Liveness.** Where every round drops one peer at most, the registry agrees with the peers in
every quiet state. In any run where no peer is heard again between its drop and the publication of
its loss, it does so once the losses are published. -/
theorem liveness_agrees (rules : DiscoveryRules)
    (hport : ∀ i, rules.validatePort (.int i) = some (.int i)) (self : LocalIdentity)
    (now : DateTime) (fabric : LocalFabric) (actions : List UdpAction)
    (hwell : WellFormed rules actions) :
    (Along (step rules self) (SingleLosses rules) (start self now fabric) actions →
      Always (step rules self) (fun w => w.Quiet → ∀ id ∈ w.seen, w.Agrees id)
        (start self now fabric) actions)
    ∧ (Along (step rules self) HeardInTime (start self now fabric) actions →
      Always (step rules self) (fun w => w.Quiet → w.state.lost = [] → ∀ id ∈ w.seen, w.Agrees id)
        (start self now fabric) actions) := by
  have hmem : Along (step rules self) (fun _ action => action ∈ actions)
    (start self now fabric) actions :=
    along_of_forall_mem fun _ h => h
  constructor
  · intro hsingle
    have hinvariant (w : UdpWorld) (action : UdpAction) (h : w.Accounted ∧ w.state.lost = [])
        (ha : action ∈ actions ∧ w.SingleLosses rules action) :
        (step rules self w action).Accounted ∧ (step rules self w action).state.lost = [] := by
      have htime : w.HeardInTime action := by
        cases action with
        | updatePeer index =>
            intro _ _ _ _ hlost
            rw [h.2] at hlost
            cases hlost
        | _ => trivial
      exact ⟨h.1.step hport hwell ha.1 htime, lost_step_eq_nil h.2 ha.2⟩
    exact (hmem.and hsingle).always hinvariant (fun w h hquiet => h.1.agrees hquiet h.2)
      ⟨accounted_start self now fabric, rfl⟩
  · intro htime
    have hinvariant (w : UdpWorld) (action : UdpAction) (h : w.Accounted)
        (ha : action ∈ actions ∧ w.HeardInTime action) : (step rules self w action).Accounted :=
      h.step hport hwell ha.1 ha.2
    exact (hmem.and htime).always hinvariant (fun w h hquiet => h.agrees hquiet)
      (accounted_start self now fabric)

/-! ### Two laptops fall silent -/

/-- Two ids parse, as themselves, nothing changes, and fifteen seconds are too long within one
minute. -/
def laptopRules : DiscoveryRules where
  parseUuid s := if s = uuidText 2 ∨ s = uuidText 3 then some s else none
  validatePort
    | .int port => some (.int port)
    | _ => none
  differs _ _ := false
  expired now lastSeen := lastSeen.second + 15 < now.second

def laptopAnnouncement (n : ℕ) : Announcement where
  nodeId := uuidText n
  nodeName := .str "laptop"
  address := "10.0.0.2"
  port := .int 54321
  protocolVersion := .str "0.2.0"
  metadata := .dict []

def laptopDatagram (n : ℕ) (now : DateTime) : UdpAction :=
  .datagram now (some (.dict [("node_id", .str (uuidText n)), ("node_name", .str "laptop"),
    ("port", .int 54321)])) "10.0.0.2"

/-- A datagram, and all that follows from it. -/
def arrival (n : ℕ) (now : DateTime) : List UdpAction :=
  [laptopDatagram n now, .updatePeer 0, .handleEvent, .releaseLock]

theorem liveness_agrees_oneLaptop :
    Always (step laptopRules ⟨uuidText 1, "desk", "0.2.0"⟩) (fun w => w.Quiet →
      ∀ id ∈ w.seen, w.Agrees id)
      (start ⟨uuidText 1, "desk", "0.2.0"⟩ .epoch {})
      (arrival 2 (.clock 0) ++ [.reap (.clock 20), .handleEvent]) := by
  apply (liveness_agrees laptopRules (fun _ => rfl) ⟨uuidText 1, "desk", "0.2.0"⟩ .epoch {} _ ?_).1
  · exact ⟨trivial, trivial, trivial, trivial, fun _ _ => Nat.le_refl 1, trivial, trivial⟩
  · intro now payload remoteIp a hmem hparse
    have hdatagram : UdpAction.datagram now payload remoteIp = laptopDatagram 2 (.clock 0) := by
      simpa [arrival] using hmem
    cases hdatagram
    cases hparse.symm.trans (rfl : _ = some (laptopAnnouncement 2))
    exact ⟨⟨_, rfl⟩, ⟨_, rfl⟩, ⟨_, rfl⟩, ⟨_, rfl⟩⟩

/-- A round drops both, and the second is heard again while the loss of the first is handled. -/
theorem heard_again_unavailable :
    let w := run (step laptopRules ⟨uuidText 1, "desk", "0.2.0"⟩)
      (start ⟨uuidText 1, "desk", "0.2.0"⟩ .epoch {})
      (arrival 2 (.clock 0) ++ arrival 3 (.clock 0) ++ [.reap (.clock 20),
        laptopDatagram 3 (.clock 20), .updatePeer 0, .handleEvent, .handleEvent, .releaseLock,
        .announceLost, .handleEvent])
    (w.Quiet ∧ w.state.lost = [] ∧ uuidText 3 ∈ w.seen)
      ∧ (∃ peer, w.state.peers.entries.get? (uuidText 3) = some peer)
      ∧ ∃ node, w.state.registry.getNode (uuidText 3) = some node ∧ node.state = .unavailable :=
  ⟨⟨⟨rfl, rfl, rfl⟩, rfl, List.mem_cons_of_mem _ List.mem_cons_self⟩, ⟨_, rfl⟩, _, rfl, rfl⟩

end UdpWorld

end Shyam
