import Shyam.Navigation.Policy

/-!
# Discovery order

Navigation reads a snapshot in the order in which nodes and providers were discovered, and its
ranking does not separate the capabilities of one provider. Ties stay inside one provider's list, so
two snapshots with the same entries lead to the same answer.
-/

namespace Shyam

open Python

/-! ### Snapshots with the same entries -/

/-- The nodes agree, up to the order of their providers. -/
structure DiscoveredNode.SameEntries (node node' : DiscoveredNode) : Prop where
  providers : ∀ id, node.providers.entries.get? id = node'.providers.entries.get? id
  rest : { node with providers := .empty } = { node' with providers := .empty }

/-- The snapshots agree, up to the order of nodes and of their providers. -/
def EcosystemSnapshot.SameEntries (snapshot snapshot' : EcosystemSnapshot) : Prop :=
  ∀ id, Option.Rel DiscoveredNode.SameEntries (snapshot.nodes.get? id) (snapshot'.nodes.get? id)

/-- Every node stands under its own id. -/
def EcosystemSnapshot.Keyed (snapshot : EcosystemSnapshot) : Prop :=
  ∀ id node, snapshot.nodes.get? id = some node → node.nodeId = id

namespace Navigation

/-! ### The candidates of one provider -/

def providerCandidates (capabilityId : String) (node : DiscoveredNode)
    (provider : DiscoveredProvider) :
    List Candidate :=
  (provider.capabilities.filter (·.capabilityId = capabilityId)).map (Candidate.of node provider)

variable {capabilityId nodeId providerId : String} {node node' : DiscoveredNode}
  {snapshot snapshot' : EcosystemSnapshot}

def Candidate.standsAt (nodeId providerId : String) (c : Candidate) : Bool :=
  c.nodeId = nodeId && c.providerId = providerId

theorem standsAt_of_mem {provider : DiscoveredProvider} {c : Candidate}
    (h : c ∈ providerCandidates capabilityId node provider) :
    c.standsAt nodeId providerId
      = (node.nodeId = nodeId && provider.providerId = providerId : Bool) := by
  obtain ⟨cap, -, rfl⟩ := List.mem_map.mp h
  rfl

theorem filter_providerCandidates {provider : DiscoveredProvider}
    (hids : node.nodeId ≠ nodeId ∨ provider.providerId ≠ providerId) :
    (providerCandidates capabilityId node provider).filter (·.standsAt nodeId providerId) = [] := by
  apply List.filter_eq_nil_iff.mpr
  intro c hc
  rw [standsAt_of_mem hc]
  simpa [imp_iff_not_or] using hids

/-- The candidates of one provider of a node, in their order. -/
theorem filter_nodeCandidates :
    (node.providers.entries.entries.flatMap fun e =>
      providerCandidates capabilityId node e.2).filter
        (·.standsAt nodeId providerId)
      = ((node.providers.entries.get? providerId).map fun provider =>
          (providerCandidates capabilityId node provider).filter
            (·.standsAt nodeId providerId)).getD [] := by
  apply Dict.filter_flatMap_entries
  intro e he hne
  have hid := node.providers.keyed e.1 e.2 (Dict.get?_eq_some_iff.mpr he)
  exact filter_providerCandidates (Or.inr fun h => hne (hid.symm.trans h))

theorem filter_discoverCandidates (hkeyed : snapshot.Keyed) :
    (discoverCandidates snapshot capabilityId).filter (·.standsAt nodeId providerId)
      = ((snapshot.nodes.get? nodeId).map fun node =>
          ((node.providers.entries.get? providerId).map fun provider =>
            (providerCandidates capabilityId node provider).filter
              (·.standsAt nodeId providerId)).getD []).getD [] := by
  have hnodes := Dict.filter_flatMap_entries (d := snapshot.nodes) (k := nodeId)
    (f := fun e => e.2.providers.entries.entries.flatMap fun e' =>
      providerCandidates capabilityId e.2 e'.2)
    (p := (·.standsAt nodeId providerId)) fun e he hne => by
      rw [filter_nodeCandidates]
      have hid := hkeyed e.1 e.2 (Dict.get?_eq_some_iff.mpr he)
      cases e.2.providers.entries.get? providerId with
      | none => rfl
      | some provider => exact filter_providerCandidates (Or.inl fun h => hne (hid.symm.trans h))
  refine hnodes.trans ?_
  simp only [filter_nodeCandidates]

/-! ### Two snapshots -/

theorem candidate_eq_of_sameEntries (h : node.SameEntries node') :
    Candidate.of node = Candidate.of node' := by
  have hrest := h.rest
  simp only [DiscoveredNode.mk.injEq] at hrest
  obtain ⟨hid, hname, hstate, hlocal, -, -, hmetadata, -⟩ := hrest
  funext provider cap
  simp only [Candidate.of, mergedMetadata, hid, hname, hstate, hlocal, hmetadata]

theorem filter_eq_of_sameEntries (hkeyed : snapshot.Keyed) (hkeyed' : snapshot'.Keyed)
    (h : snapshot.SameEntries snapshot') (capabilityId nodeId providerId : String) :
    (discoverCandidates snapshot capabilityId).filter (·.standsAt nodeId providerId)
      = (discoverCandidates snapshot' capabilityId).filter (·.standsAt nodeId providerId) := by
  rw [filter_discoverCandidates hkeyed, filter_discoverCandidates hkeyed']
  have hnodes := h nodeId
  generalize snapshot.nodes.get? nodeId = found, snapshot'.nodes.get? nodeId = found' at hnodes ⊢
  cases hnodes with
  | none => rfl
  | some hnode => simp only [Option.map_some, hnode.providers, providerCandidates,
      candidate_eq_of_sameEntries hnode]

variable {constraints : NavigationConstraints} {l m : List Candidate}

/-- The candidates of one key stand at one provider. -/
theorem filter_rankingKey (l : List Candidate) (key : ℕ ×ₗ ℕ ×ₗ ℕ ×ₗ String ×ₗ String) :
    l.filter (fun c => rankingKey constraints c = key)
      = (l.filter fun c => c.standsAt (ofLex (ofLex (ofLex (ofLex key).2).2).2).1
          (ofLex (ofLex (ofLex (ofLex key).2).2).2).2).filter fun c =>
            rankingKey constraints c = key := by
  rw [List.filter_filter]
  apply List.filter_congr
  intro c _
  by_cases hkey : rankingKey constraints c = key
  · subst hkey
    simp [Candidate.standsAt, rankingKey]
  · simp [hkey]

theorem filter_rankingKey_congr
    (h : ∀ nodeId providerId, l.filter (·.standsAt nodeId providerId)
      = m.filter (·.standsAt nodeId providerId))
    (key : ℕ ×ₗ ℕ ×ₗ ℕ ×ₗ String ×ₗ String) :
    l.filter (fun c => rankingKey constraints c = key)
      = m.filter fun c => rankingKey constraints c = key := by
  rw [filter_rankingKey, filter_rankingKey (l := m), h]

theorem filter_eligible_congr (constraints : NavigationConstraints)
    (h : ∀ nodeId providerId, l.filter (·.standsAt nodeId providerId)
      = m.filter (·.standsAt nodeId providerId))
    (nodeId providerId : String) :
    (eligible constraints l).filter (·.standsAt nodeId providerId)
      = (eligible constraints m).filter (·.standsAt nodeId providerId) := by
  rw [eligible, eligible, List.filter_comm, h, List.filter_comm]

/-- **Order is forgotten.** Snapshots with the same entries lead to the same selection, the same
alternatives in the same order and the same reason, and reject the same candidates for the same
reasons. -/
theorem navigate_eq_of_sameEntries (request : NavigationRequest)
    (snapshot snapshot' : EcosystemSnapshot) (hkeyed : snapshot.Keyed) (hkeyed' : snapshot'.Keyed)
    (h : snapshot.SameEntries snapshot') :
    (navigate request snapshot).selected = (navigate request snapshot').selected
      ∧ (navigate request snapshot).alternatives = (navigate request snapshot').alternatives
      ∧ (navigate request snapshot).reason = (navigate request snapshot').reason
      ∧ (navigate request snapshot).rejected.Perm (navigate request snapshot').rejected := by
  have hfilter := filter_eq_of_sameEntries hkeyed hkeyed' h request.capability
  have hranked := sortedBy_congr (rankingKey request.constraints)
    (filter_rankingKey_congr (filter_eligible_congr request.constraints hfilter))
  have hrejected := (perm_of_filter_eq (rankingKey request.constraints)
    (filter_rankingKey_congr hfilter)).filterMap fun cand =>
      (rejection request.constraints cand).map (cand, ·)
  rw [navigate, navigate, evaluate, evaluate, hranked]
  cases sortedBy (rankingKey request.constraints)
      (eligible request.constraints (discoverCandidates snapshot' request.capability)) with
  | nil => exact ⟨rfl, rfl, rfl, hrejected⟩
  | cons selected alternatives => exact ⟨rfl, rfl, rfl, hrejected⟩

/-! ### An example -/

def notesProvider (id : String) : DiscoveredProvider where
  providerId := id
  name := id
  capabilities := [{ capabilityId := "notes.read" },
    { capabilityId := "notes.read", availability := .registered }]
  lastSeen := .epoch

def notesNode (first second id : String) : DiscoveredNode where
  nodeId := id
  nodeName := id
  state := .available
  providers := (ProviderMap.empty.put (notesProvider first)).put (notesProvider second)
  firstSeen := .epoch
  lastSeen := .epoch

/-- Two nodes with two providers each, discovered in the order of the arguments. -/
def discoveredInOrder (first second : String) : EcosystemSnapshot where
  localNodeId := "desk"
  nodes := ((∅ : Dict DiscoveredNode).set first (notesNode first second first)).set second
    (notesNode first second second)

theorem keyed_discoveredInOrder (first second : String) :
    (discoveredInOrder first second).Keyed := by
  intro id node hnode
  rw [discoveredInOrder, Dict.get?_set, Dict.get?_set] at hnode
  split_ifs at hnode with hsecond hfirst
  · rw [← Option.some.inj hnode, hsecond]
    rfl
  · rw [← Option.some.inj hnode, hfirst]
    rfl
  · simp at hnode

theorem sameEntries_notesNode {first second : String} (hne : first ≠ second) (id : String) :
    (notesNode first second id).SameEntries (notesNode second first id) where
  providers providerId := by
    by_cases hfirst : providerId = first
    · simp [notesNode, ProviderMap.put, notesProvider, hfirst, hne]
    · simp [notesNode, ProviderMap.put, notesProvider, hfirst]
  rest := rfl

theorem sameEntries_discoveredInOrder {first second : String} (hne : first ≠ second) :
    (discoveredInOrder first second).SameEntries (discoveredInOrder second first) := by
  intro id
  simp only [discoveredInOrder, Dict.get?_set]
  by_cases hfirst : id = first
  · rw [if_neg (hfirst ▸ hne), if_pos hfirst, if_pos hfirst]
    exact .some (sameEntries_notesNode hne first)
  · rw [if_neg hfirst, if_neg hfirst]
    split_ifs
    · exact .some (sameEntries_notesNode hne second)
    · exact .none

def notesRequest : NavigationRequest := ⟨"notes.read", {}⟩

theorem navigate_eq_of_sameEntries_notes :
    (navigate notesRequest (discoveredInOrder "desk" "laptop")).selected
        = (navigate notesRequest (discoveredInOrder "laptop" "desk")).selected
      ∧ (navigate notesRequest (discoveredInOrder "desk" "laptop")).alternatives
        = (navigate notesRequest (discoveredInOrder "laptop" "desk")).alternatives
      ∧ (navigate notesRequest (discoveredInOrder "desk" "laptop")).reason
        = (navigate notesRequest (discoveredInOrder "laptop" "desk")).reason
      ∧ (navigate notesRequest (discoveredInOrder "desk" "laptop")).rejected.Perm
        (navigate notesRequest (discoveredInOrder "laptop" "desk")).rejected :=
  navigate_eq_of_sameEntries notesRequest (discoveredInOrder "desk" "laptop")
    (discoveredInOrder "laptop" "desk") (keyed_discoveredInOrder "desk" "laptop")
    (keyed_discoveredInOrder "laptop" "desk") (sameEntries_discoveredInOrder (by decide))

end Navigation

end Shyam
