import Shyam.Sync.Network

/-!
# Capability knowledge is what the version vector says

In a network without restarts no copy of a node's counter runs ahead of the node, so every update is
made at a number nobody has heard of, and one ledger explains every service and every envelope. What
a dominated vector stands for is then already known, and skipping its envelope loses nothing.
-/

namespace Shyam

open Python Gossip Transition

namespace Net

variable {ι : Type} {nodes : Nodes ι} {net : Net nodes} {ed : Ed25519} {codec : RecordCodec}

theorem snapshot_service (i : ι) : net.system.Snapshot (net.service i).replica :=
  System.snapshot_replica i

theorem snapshot_sent {e : SyncEnvelope} (h : e ∈ net.sent) : net.system.Snapshot e.replica :=
  System.snapshot_sent ⟨e, h, rfl⟩

namespace Consistent

variable (h : net.Consistent)

include h

theorem getVersion_le (i j : ι) :
    (net.service i).getVersion (nodes.id j) ≤ (net.service j).getVersion (nodes.id j) :=
  h.capped.le_own _ (snapshot_service i) j

theorem facts_subset {i j : ι} (hle : (net.service j).getVersion ≤ (net.service i).getVersion) :
    (net.service j).facts ⊆ (net.service i).facts :=
  h.explained.facts_subset (snapshot_service i) (snapshot_service j) hle

theorem envelope_facts_subset {i : ι} {e : SyncEnvelope} (he : e ∈ net.sent)
    (hle : e.getVersion ≤ (net.service i).getVersion) : e.facts ⊆ (net.service i).facts :=
  h.explained.facts_subset (snapshot_service i) (snapshot_sent he) hle

end Consistent

variable [DecidableEq ι]

/-- **Capability knowledge.** In every state of a run without restarts, a node's copy of another's
counter is at most the counter; a dominating vector holds every capability fact of the dominated
one; and an envelope that is skipped as EQUAL or AHEAD carries only facts the receiver has. -/
theorem capabilities_explained_by_versions {actions : List (Action ι)}
    (hrun : Along (step ed codec) Admits (fresh nodes) actions) :
    let net := run (step ed codec) (fresh nodes) actions
    (∀ i j, (net.service i).getVersion (nodes.id j) ≤ (net.service j).getVersion (nodes.id j))
      ∧ (∀ i j, (net.service j).getVersion ≤ (net.service i).getVersion →
          (net.service j).facts ⊆ (net.service i).facts)
      ∧ (∀ i j, (net.service j).getVersion = (net.service i).getVersion →
          (net.service j).facts = (net.service i).facts)
      ∧ ∀ i, ∀ e ∈ net.sent,
          (compareVersions (net.service i).versionMap e.versionMap = .equal
            ∨ compareVersions (net.service i).versionMap e.versionMap = .ahead) →
          e.facts ⊆ (net.service i).facts := by
  have h := consistent_run hrun
  refine ⟨h.getVersion_le, fun i j hle => h.facts_subset hle, fun i j heq => ?_,
    fun i e he hskip => ?_⟩
  · exact (h.facts_subset heq.le).antisymm (h.facts_subset heq.ge)
  · exact h.envelope_facts_subset he (compareVersions_eq_or_ahead_iff.mp hskip)

/-! ### One update of `a` reaches `b` -/

def reportedCapabilities : Dict (List String) := ⟨[("x", ["camera"])], by decide⟩

def reportedAvailability (nodeId status : String) : Dict String := ⟨[(nodeId, status)], by simp⟩

/-- Both nodes of the pair are trusted, without pinned keys. -/
def pairTrust : TrustService := .trusting ⟨["a", "b"], by decide⟩

def pairEnvelope (s : SyncService) (messageId : String) : SyncEnvelope :=
  s.signedEnvelope transparentEd25519 .insertion "sync_response" messageId .epoch

def updatedPair : SyncService :=
  ((fresh pairNodes).service false).updateLocalFacts (some reportedCapabilities)
    (some (reportedAvailability "x" "up"))

def singleUpdate : List (Action Bool) := [
  .perform false
    (.updateLocalFacts (some reportedCapabilities) (some (reportedAvailability "x" "up"))),
  .createSyncEnvelope false .insertion "sync_response" "m" .epoch,
  .perform true (.processIncomingEnvelope .epoch pairTrust (pairEnvelope updatedPair "m"))]

theorem admits_singleUpdate :
    Along (step transparentEd25519 .unused) Admits (fresh pairNodes) singleUpdate := by
  simp only [singleUpdate, along_cons, along_nil, step_createSyncEnvelope]
  exact ⟨⟨trivial, trivial⟩, ⟨by simp [Allows, step, put, fresh], trivial⟩,
    ⟨List.mem_cons_self, trivial⟩, trivial⟩

theorem accepts_pairEnvelope (s s' : SyncService) (messageId : String)
    (hsender : s.localNodeId ≠ s'.localNodeId) (hid : s.localNodeId ≠ "")
    (hmem : s.localNodeId ∈ ["a", "b"]) :
    SyncService.Accepts transparentEd25519 .unused .epoch pairTrust s' (pairEnvelope s messageId) :=
  SyncService.accepts_signedEnvelope_of_trusting transparentEd25519_lawful hsender hid hmem

theorem capabilities_explained_by_versions_singleUpdate :
    let net := run (step transparentEd25519 .unused) (fresh pairNodes) singleUpdate
    ∀ i j, (net.service j).getVersion ≤ (net.service i).getVersion →
      (net.service j).facts ⊆ (net.service i).facts :=
  (capabilities_explained_by_versions admits_singleUpdate).2.1

end Net

end Shyam
