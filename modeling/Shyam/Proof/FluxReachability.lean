import Shyam.Discovery.Ecosystem

/-!
# Reachability of Flux peers

Ingestion writes the nodes of the peers that the gateway lists and passes over the others. So a node
says that its peer is reachable on the word of an earlier list, as soon as the peer drops out of the
list.
-/

namespace Shyam

open Python Transition EcosystemDiscoveryService

/-- A call of `discover`, with what is local and what the gateway answers. -/
structure DiscoverCall where
  now : DateTime
  fabric : LocalFabric
  answer : GatewayAnswer

/-- The registry, and the last list that the gateway returned. -/
structure FluxView where
  registry : EcosystemRegistry := .empty
  latest : Option (List FluxPeerInfo) := none

namespace FluxView

def step (self : LocalIdentity) (w : FluxView) (call : DiscoverCall) : FluxView where
  registry := (discover self call.now call.fabric call.answer w.registry).2
  latest := match call.answer with
    | .returned _ peers => some peers
    | .disconnected | .failed => w.latest

def ShowsAvailable (w : FluxView) (peerId : String) : Prop :=
  ∃ node, w.registry.getNode ("flux:" ++ peerId) = some node ∧ node.state = .available

/-- The nodes are available on the word of the last list. -/
def Current (w : FluxView) : Prop :=
  ∀ peerId, w.ShowsAvailable peerId →
    ∃ peers, w.latest = some peers ∧ ∃ peer ∈ peers,
      peer.peerId = peerId ∧ peer.connectivity = "reachable"

/-- Every peer whose node is available is in the list that comes, whatever the list says of it. -/
def StillListed (w : FluxView) (call : DiscoverCall) : Prop :=
  ∀ now peers, call.answer = .returned now peers →
    ∀ peerId, w.ShowsAvailable peerId → ∃ peer ∈ peers, peer.peerId = peerId

variable {self : LocalIdentity} {w : FluxView} {call : DiscoverCall}

theorem fluxId_injective {peerId peerId' : String} (h : "flux:" ++ peerId = "flux:" ++ peerId') :
    peerId = peerId' := by
  have hlist := congrArg String.toList h
  rw [String.toList_append, String.toList_append] at hlist
  exact String.toList_injective (List.append_cancel_left hlist)

theorem fluxState_eq_available_iff (connectivity : String) :
    fluxState connectivity = .available ↔ connectivity = "reachable" := by
  rw [fluxState]
  split_ifs <;> simp_all

theorem getNode_discoverLocalNode_flux (hself : IsUuidText self.nodeId) (now : DateTime)
    (fabric : LocalFabric) (registry : EcosystemRegistry) (peerId : String) :
    (discoverLocalNode self now fabric registry).getNode ("flux:" ++ peerId)
      = registry.getNode ("flux:" ++ peerId) :=
  getNode_discoverLocalNode_other now fabric (hself.ne_flux peerId).symm

theorem showsAvailable_unanswered (hself : IsUuidText self.nodeId)
    (hanswer : ∀ now peers, call.answer ≠ .returned now peers) (peerId : String) :
    (step self w call).ShowsAvailable peerId ↔ w.ShowsAvailable peerId := by
  have hnode : (step self w call).registry.getNode ("flux:" ++ peerId)
      = w.registry.getNode ("flux:" ++ peerId) := by
    rw [step, discover_unanswered hanswer]
    exact getNode_discoverLocalNode_flux hself call.now call.fabric w.registry peerId
  rw [ShowsAvailable, ShowsAvailable, hnode]

theorem showsAvailable_unlisted (hself : IsUuidText self.nodeId) {now : DateTime}
    {peers : List FluxPeerInfo} (hanswer : call.answer = .returned now peers) {peerId : String}
    (hunlisted : ∀ peer ∈ peers, peer.peerId ≠ peerId) :
    (step self w call).ShowsAvailable peerId ↔ w.ShowsAvailable peerId := by
  have hnode : (step self w call).registry.getNode ("flux:" ++ peerId)
      = w.registry.getNode ("flux:" ++ peerId) := by
    rw [← getNode_discoverLocalNode_flux hself call.now call.fabric w.registry peerId,
      step, hanswer]
    apply getNode_ingestFluxPeers_unlisted
    intro peer hpeer hid
    exact hunlisted peer hpeer (fluxId_injective hid).symm
  rw [ShowsAvailable, ShowsAvailable, hnode]

theorem reachable_of_listed {now : DateTime} {peers : List FluxPeerInfo}
    (hanswer : call.answer = .returned now peers) {peerId : String}
    (hlisted : ∃ peer ∈ peers, peer.peerId = peerId)
    (h : (step self w call).ShowsAvailable peerId) :
    ∃ peer ∈ peers, peer.peerId = peerId ∧ peer.connectivity = "reachable" := by
  obtain ⟨node, hnode, havailable⟩ := h
  rw [step, hanswer] at hnode
  have hid : ∃ peer ∈ peers, "flux:" ++ peerId = "flux:" ++ peer.peerId := by
    obtain ⟨peer, hpeer, rfl⟩ := hlisted
    exact ⟨peer, hpeer, rfl⟩
  obtain ⟨peer, hpeer, hsame, node', hnode', hstate⟩ := exists_getNode_ingestFluxPeers
    (discoverLocalNode self call.now call.fabric w.registry) hid now
  cases hnode.symm.trans hnode'
  refine ⟨peer, hpeer, (fluxId_injective hsame).symm, ?_⟩
  exact (fluxState_eq_available_iff peer.connectivity).mp (hstate.symm.trans havailable)

theorem current_step_iff (hself : IsUuidText self.nodeId) (h : w.Current) (call : DiscoverCall) :
    (step self w call).Current ↔ w.StillListed call := by
  by_cases hreturned : ∃ now peers, call.answer = .returned now peers
  · obtain ⟨now, peers, hanswer⟩ := hreturned
    have hlatest : (step self w call).latest = some peers := by
      rw [step, hanswer]
    constructor
    · intro hcurrent now' peers' hanswer' peerId havailable
      cases hanswer.symm.trans hanswer'
      by_contra hunlisted
      have hnext : (step self w call).ShowsAvailable peerId :=
        (showsAvailable_unlisted hself hanswer fun peer hpeer hid =>
          hunlisted ⟨peer, hpeer, hid⟩).mpr havailable
      obtain ⟨peers', hpeers', peer, hpeer, hid, -⟩ := hcurrent peerId hnext
      cases hlatest.symm.trans hpeers'
      exact hunlisted ⟨peer, hpeer, hid⟩
    · intro hlisted peerId havailable
      refine ⟨peers, hlatest, ?_⟩
      by_cases hmem : ∃ peer ∈ peers, peer.peerId = peerId
      · exact reachable_of_listed hanswer hmem havailable
      · have hbefore : w.ShowsAvailable peerId :=
          (showsAvailable_unlisted hself hanswer fun peer hpeer hid =>
            hmem ⟨peer, hpeer, hid⟩).mp havailable
        exact absurd (hlisted now peers hanswer peerId hbefore) hmem
  · have hanswer : ∀ now peers, call.answer ≠ .returned now peers :=
      fun now peers hanswer => hreturned ⟨now, peers, hanswer⟩
    have hlatest : (step self w call).latest = w.latest := by
      rw [step]
      cases hcall : call.answer with
      | disconnected => rfl
      | failed => rfl
      | returned now peers => exact absurd hcall (hanswer now peers)
    constructor
    · intro _ now peers hcall
      exact absurd hcall (hanswer now peers)
    · intro _ peerId havailable
      rw [hlatest]
      exact h peerId ((showsAvailable_unanswered hself hanswer peerId).mp havailable)

/-- **Flux reachability.** The nodes stay current exactly as long as no peer with an available node
drops out of the list. -/
theorem current_iff_stillListed (self : LocalIdentity) (hself : IsUuidText self.nodeId)
    (calls : List DiscoverCall) :
    Always (step self) Current {} calls ↔ Along (step self) StillListed {} calls := by
  apply always_iff_along fun w call h => current_step_iff hself h call
  rintro peerId ⟨node, hnode, -⟩
  cases hnode

/-! ### A phone that leaves -/

def deskIdentity : LocalIdentity := ⟨uuidText 1, "desk", "0.2.0"⟩

def phone (connectivity : String) : FluxPeerInfo :=
  { peerId := "phone", connectivity := connectivity }

def listing (peers : List FluxPeerInfo) : DiscoverCall := ⟨.epoch, {}, .returned .epoch peers⟩

/-- The phone is listed again, as out of reach. -/
theorem current_iff_stillListed_phone :
    Always (step deskIdentity) Current {} [listing [phone "reachable"],
      listing [phone "unreachable"]] := by
  apply (current_iff_stillListed deskIdentity ⟨1, rfl⟩ _).mpr
  have hempty : ∀ peerId, ¬ShowsAvailable {} peerId := by
    rintro peerId ⟨node, hnode, -⟩
    cases hnode
  refine ⟨fun now peers _ peerId havailable => absurd havailable (hempty peerId), ?_, trivial⟩
  intro now peers hanswer peerId havailable
  cases hanswer
  refine ⟨phone "unreachable", List.mem_singleton_self _, ?_⟩
  by_contra hother
  refine hempty peerId ((showsAvailable_unlisted ⟨1, rfl⟩ rfl fun peer hpeer => ?_).mp havailable)
  rw [List.mem_singleton.mp hpeer]
  exact hother

theorem phone_left_available :
    let w := run (step deskIdentity) {} [listing [phone "reachable"], listing []]
    w.ShowsAvailable "phone" ∧ w.latest = some [] :=
  ⟨⟨_, rfl, rfl⟩, rfl⟩

end FluxView

end Shyam
