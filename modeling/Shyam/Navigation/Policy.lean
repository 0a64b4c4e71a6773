import Mathlib.Data.Prod.Lex
import Mathlib.Data.String.Basic
import Shyam.Lib.Sorted
import Shyam.Navigation.Candidates

/-!
# The navigation policy

Candidates that violate a constraint or are not up are rejected, each for the first reason that
applies. The others are ranked: the preferred node, the preferred provider, the local node, and then
the ids.
-/

namespace Shyam

open Python

namespace EcosystemNodeState

def value : EcosystemNodeState → String
  | known => "known"
  | available => "available"
  | unavailable => "unavailable"
  | stale => "stale"

end EcosystemNodeState

namespace AvailabilityStatus

def value : AvailabilityStatus → String
  | registered => "registered"
  | available => "available"
  | unavailable => "unavailable"

end AvailabilityStatus

namespace Navigation

/-- `NavigationResult` with everything that the policy returns. -/
structure Evaluation where
  capability : String
  selected : Option Candidate
  reason : String
  alternatives : List Candidate
  rejected : List (Candidate × String)

/-- What the callers of the navigator read. -/
def Evaluation.toNavigationResult (evaluation : Evaluation) : NavigationResult where
  selected := evaluation.selected.map Candidate.toNavigationCandidate
  reason := evaluation.reason

/-! ### Eligibility -/

def rejection (constraints : NavigationConstraints) (cand : Candidate) : Option String :=
  if cand.nodeState = .unavailable then some "Node is unavailable"
  else if cand.nodeState = .stale then some "Node state is stale"
  else if cand.providerStatus = .unavailable then some "Provider status is unavailable"
  else if cand.capabilityAvailability = .unavailable then
    some "Capability availability is unavailable"
  else if constraints.localOnly ∧ ¬cand.isLocal then some "Violates constraint: local_only=True"
  else if ¬constraints.remoteAllowed ∧ ¬cand.isLocal then
    some "Violates constraint: remote_allowed=False"
  else
    match constraints.requiredNodeState with
    | some state =>
        if cand.nodeState ≠ state then
          some ("Violates constraint: required_node_state=" ++ state.value)
        else rejectedStatus constraints cand
    | none => rejectedStatus constraints cand
where
  rejectedStatus (constraints : NavigationConstraints) (cand : Candidate) : Option String :=
    match constraints.requiredProviderStatus with
    | some status =>
        if cand.providerStatus ≠ status then
          some ("Violates constraint: required_provider_status=" ++ status.value)
        else none
    | none => none

def eligible (constraints : NavigationConstraints) (candidates : List Candidate) : List Candidate :=
  candidates.filter fun cand => (rejection constraints cand).isNone

def rejected (constraints : NavigationConstraints) (candidates : List Candidate) :
    List (Candidate × String) :=
  candidates.filterMap fun cand => (rejection constraints cand).map (cand, ·)

/-! ### Ranking -/

/-- Lower is better. -/
def rankingKey (constraints : NavigationConstraints) (c : Candidate) :
    ℕ ×ₗ ℕ ×ₗ ℕ ×ₗ String ×ₗ String :=
  toLex (if constraints.preferredNode = some c.nodeId then 0 else 1,
    toLex (if constraints.preferredProvider = some c.providerId then 0 else 1,
      toLex (if c.isLocal then 0 else 1, toLex (c.nodeId, c.providerId))))

/-- The parts of the reason, joined with blanks. -/
def selectionReason (constraints : NavigationConstraints) (selected : Candidate) : String :=
  " ".intercalate
    (["Selected candidate on node '" ++ selected.nodeId ++ "' via provider '" ++ selected.providerId
        ++ "'."]
      ++ (if constraints.preferredNode = some selected.nodeId then
        ["Matched preferred node constraint."] else [])
      ++ (if constraints.preferredProvider = some selected.providerId then
        ["Matched preferred provider constraint."] else [])
      ++ [if selected.isLocal then "Preferred local execution."
        else "Resolved to remote execution."])

def evaluate (capability : String) (candidates : List Candidate)
    (constraints : NavigationConstraints) : Evaluation :=
  match sortedBy (rankingKey constraints) (eligible constraints candidates) with
  | [] =>
      { capability := capability
        selected := none
        reason := "No eligible candidates found matching requirements."
        alternatives := []
        rejected := rejected constraints candidates }
  | selected :: alternatives =>
      { capability := capability
        selected := some selected
        reason := selectionReason constraints selected
        alternatives := alternatives
        rejected := rejected constraints candidates }

def navigate (request : NavigationRequest) (snapshot : EcosystemSnapshot) : Evaluation :=
  evaluate request.capability (discoverCandidates snapshot request.capability) request.constraints

/-! ### What is selected -/

variable {capability : String} {candidates : List Candidate} {constraints : NavigationConstraints}
  {c c' : Candidate}

theorem mem_eligible : c ∈ eligible constraints candidates
    ↔ c ∈ candidates ∧ rejection constraints c = none := by
  rw [eligible, List.mem_filter, Option.isNone_iff_eq_none]

/-- The candidate is eligible, and none is ranked before it. -/
def RankedFirst (constraints : NavigationConstraints) (candidates : List Candidate)
    (c : Candidate) : Prop :=
  c ∈ eligible constraints candidates
    ∧ ∀ c' ∈ eligible constraints candidates, rankingKey constraints c ≤ rankingKey constraints c'

theorem rankedFirst_of_selected
    (h : (evaluate capability candidates constraints).selected = some c) :
    RankedFirst constraints candidates c := by
  rw [evaluate] at h
  split at h
  · cases h
  · rename_i selected alternatives hsorted
    cases h
    exact le_of_sortedBy_cons (rankingKey constraints) hsorted

theorem exists_selected (capability : String) (h : c ∈ eligible constraints candidates) :
    ∃ c', (evaluate capability candidates constraints).selected = some c' := by
  rw [evaluate]
  split
  · rename_i hsorted
    rw [(sortedBy_eq_nil_iff _).mp hsorted] at h
    exact absurd h List.not_mem_nil
  · exact ⟨_, rfl⟩

theorem ids_eq_of_rankingKey_eq (h : rankingKey constraints c = rankingKey constraints c') :
    c.nodeId = c'.nodeId ∧ c.providerId = c'.providerId := by
  simp only [rankingKey, EmbeddingLike.apply_eq_iff_eq, Prod.mk.injEq] at h
  exact h.2.2.2

end Navigation

end Shyam
