import Mathlib.Data.Int.ConditionallyCompleteOrder
import Mathlib.Order.ConditionallyCompleteLattice.Basic
import Shyam.Proof.CapabilityKnowledge

/-!
# Gossip terminates

While nobody bumps a counter, every delivery that merges brings the receiver closer to the authors'
own counters and never past them. The gaps that remain, summed over receivers and authors, therefore
bound the number of merges, however many envelopes are created, copied and answered.
-/

namespace Shyam

open Python Gossip Transition

namespace Net

variable {ι : Type} {nodes : Nodes ι} {net : Net nodes} {ed : Ed25519} {codec : RecordCodec}

/-- The outcome that a delivery reports, unless it raises. -/
def deliveryOutcome (ed : Ed25519) (codec : RecordCodec) (net : Net nodes) :
    Action ι → Option SyncOutcome
  | .perform i (.processIncomingEnvelope now trust e) =>
      match ((net.service i).processIncomingEnvelope ed codec now trust e).result with
      | .ok result => some result.outcome
      | .error _ => none
  | _ => none

def isMerge (ed : Ed25519) (codec : RecordCodec) (net : Net nodes) (a : Action ι) : Bool :=
  net.deliveryOutcome ed codec a = some .applied || net.deliveryOutcome ed codec a = some .conflict

/-- Nothing but deliveries and new envelopes. -/
def Quiet : Action ι → Prop
  | .perform _ (.processIncomingEnvelope _ _ _) => True
  | .createSyncEnvelope _ _ _ _ _ => True
  | _ => False

/-- How far the nodes are behind the authors, summed over receivers and authors. -/
def versionGap [Fintype ι] (net : Net nodes) : ℤ :=
  ∑ i, ∑ j, ((net.service j).getVersion (nodes.id j) - (net.service i).getVersion (nodes.id j))

theorem isMerge_iff {i : ι} {now : DateTime} {trust : TrustService} {e : SyncEnvelope} :
    net.isMerge ed codec (.perform i (.processIncomingEnvelope now trust e)) = true
      ↔ SyncService.Merges ed codec now trust (net.service i) e := by
  rw [SyncService.merges_iff_outcome, isMerge, deliveryOutcome]
  cases ((net.service i).processIncomingEnvelope ed codec now trust e).result <;> simp

variable [DecidableEq ι]

/-- A merge raises its receiver, leaves every author's own counter alone, and
takes no copy above it. -/
def MergeRaises (ed : Ed25519) (codec : RecordCodec) (net : Net nodes) : Action ι → Prop
  | .perform i (.processIncomingEnvelope now trust e) =>
      let net' := net.step ed codec (.perform i (.processIncomingEnvelope now trust e))
      net.isMerge ed codec (.perform i (.processIncomingEnvelope now trust e)) = true →
        (net.service i).getVersion < (net'.service i).getVersion
          ∧ (∀ k, (net'.service k).getVersion (nodes.id k)
              = (net.service k).getVersion (nodes.id k))
          ∧ ∀ j k, (net'.service j).getVersion (nodes.id k)
              ≤ (net'.service k).getVersion (nodes.id k)
  | _ => True

theorem getVersion_le_step {a : Action ι} (hdurable : Durable a) (j : ι) :
    (net.service j).getVersion ≤ ((net.step ed codec a).service j).getVersion := by
  have hle : (net.system.replica j).vec
      ≤ ((net.system.step nodes.id (net.event ed codec a)).replica j).vec :=
    System.vec_le_step (durable_event hdurable) j
  rwa [← system_step] at hle

theorem getVersion_le_run {actions : List (Action ι)}
    (hrun : Along (step ed codec) (fun _ a => Durable a) net actions) (j : ι) :
    (net.service j).getVersion ≤ ((run (step ed codec) net actions).service j).getVersion :=
  hrun.related (R := fun net net' : Net nodes =>
    (net.service j).getVersion ≤ (net'.service j).getVersion) le_trans (fun _ => le_rfl)
    fun _ _ hdurable => getVersion_le_step hdurable j

/-- A merge leaves its receiver with the join of the two vectors. -/
theorem getVersion_step_of_merges {i : ι} {now : DateTime} {trust : TrustService} {e : SyncEnvelope}
    (h : SyncService.Merges ed codec now trust (net.service i) e) :
    ((net.step ed codec (.perform i (.processIncomingEnvelope now trust e))).service i).getVersion
      = (net.service i).getVersion ⊔ e.getVersion := by
  rw [step_perform_self, SyncService.perform_processIncomingEnvelope,
    SyncService.getVersion_of_merges h]

omit [DecidableEq ι] in
theorem event_of_isMerge {i : ι} {now : DateTime} {trust : TrustService} {e : SyncEnvelope}
    (h : net.isMerge ed codec (.perform i (.processIncomingEnvelope now trust e)) = true) :
    net.event ed codec (.perform i (.processIncomingEnvelope now trust e))
      = .receive i e.replica := if_pos (isMerge_iff.mp h)

theorem Consistent.mergeRaises (h : net.Consistent) {a : Action ι} (hadmits : net.Admits a) :
    net.MergeRaises ed codec a := by
  cases a with
  | perform i op =>
      cases op with
      | processIncomingEnvelope now trust e =>
          intro hmerge
          have hsystem :
            (net.step ed codec (.perform i (.processIncomingEnvelope now trust e))).system
              = net.system.step nodes.id (.receive i e.replica) := by
            rw [← event_of_isMerge hmerge, ← system_step]
          have hsent : e.replica ∈ net.system.sent := ⟨e, hadmits.1, rfl⟩
          refine ⟨?_, fun k => ?_, (h.step hadmits).getVersion_le⟩
          · rw [getVersion_step_of_merges (isMerge_iff.mp hmerge)]
            exact left_lt_sup.mpr (isMerge_iff.mp hmerge).2.2
          · have hown := System.own_receive h.capped (i := i) hsent k
            rw [← hsystem] at hown
            exact hown
      | _ => trivial
  | _ => trivial

def SentBelow (net : Net nodes) : Prop :=
  ∀ e ∈ net.sent, ∃ i, e.senderNodeId = nodes.id i ∧ e.getVersion ≤ (net.service i).getVersion

theorem SentBelow.step (h : net.SentBelow) {a : Action ι} (hdurable : Durable a) :
    (net.step ed codec a).SentBelow := by
  have hold {e : SyncEnvelope} (he : e ∈ net.sent) : ∃ i, e.senderNodeId = nodes.id i
      ∧ e.getVersion ≤ ((net.step ed codec a).service i).getVersion := by
    obtain ⟨i, hi, hle⟩ := h e he
    refine ⟨i, hi, ?_⟩
    calc e.getVersion ≤ (net.service i).getVersion := hle
      _ ≤ ((net.step ed codec a).service i).getVersion := getVersion_le_step hdurable i
  intro e he
  cases a with
  | createSyncEnvelope i order messageType messageId timestamp =>
      rw [step_createSyncEnvelope] at he ⊢
      rcases List.mem_cons.mp he with rfl | he
      · exact ⟨i, net.named i, le_rfl⟩
      · exact h e he
  | perform i op => exact hold (by rwa [step_perform_sent] at he)
  | restart i => exact hdurable.elim
  | recover i now requestId => exact hold he

theorem sentBelow_run {actions : List (Action ι)}
    (hrun : Along (Net.step ed codec) Admits (fresh nodes) actions) :
    (run (Net.step ed codec) (fresh nodes) actions).SentBelow :=
  hrun.invariant (fun _ _ h hadmits => h.step hadmits.2) fun _ he => absurd he List.not_mem_nil

omit [DecidableEq ι] in
/-- An accepted envelope that is dominated is reported as ALREADY_CURRENT. -/
theorem deliveryOutcome_of_dominated {i : ι} {now : DateTime} {trust : TrustService}
    {e : SyncEnvelope} (haccepts : SyncService.Accepts ed codec now trust (net.service i) e)
    (hle : e.getVersion ≤ (net.service i).getVersion) :
    net.deliveryOutcome ed codec (.perform i (.processIncomingEnvelope now trust e))
      = some .alreadyCurrent := by
  rw [deliveryOutcome, (SyncService.process_of_accepts haccepts).2]
  rcases SyncService.ingest_cases (net.service i) e with h | h | h
  · exact congrArg some h.2.2
  · exact congrArg some h.2.2.2
  · exact absurd hle h.2.1

/-- A reply made right after the peer merged a dominated envelope holds what the peer knew before
and what the envelope said, so only the former can be news. -/
theorem reply_current {net' : Net nodes} {i j : ι} {now now' : DateTime}
    {trust trust' : TrustService} {e : SyncEnvelope} {order : SetOrder}
    {messageType messageId : String} {timestamp : DateTime}
    (hle : e.getVersion ≤ (net'.service i).getVersion)
    (hmerge : net.isMerge ed codec (.perform j (.processIncomingEnvelope now trust e)) = true) :
    let reply := ((net.step ed codec (.perform j (.processIncomingEnvelope now trust e))).service
      j).signedEnvelope ed order messageType messageId timestamp
    SyncService.Accepts ed codec now' trust' (net'.service i) reply →
      net'.deliveryOutcome ed codec (.perform i (.processIncomingEnvelope now' trust' reply))
          = some .alreadyCurrent
        ∨ ∃ k, (net'.service i).getVersion k < (net.service j).getVersion k := by
  intro reply haccepts
  by_cases hknown : (net.service j).getVersion ≤ (net'.service i).getVersion
  · refine Or.inl (deliveryOutcome_of_dominated haccepts ?_)
    rw [show reply.getVersion = _ from SyncService.getVersion_signedEnvelope ..,
      getVersion_step_of_merges (isMerge_iff.mp hmerge)]
    exact sup_le hknown hle
  · rw [Pi.le_def, not_forall] at hknown
    obtain ⟨k, hk⟩ := hknown
    exact Or.inr ⟨k, not_le.mp hk⟩

variable [Fintype ι]

omit [DecidableEq ι] in
theorem versionGap_eq (net : Net nodes) : net.versionGap = net.system.gap nodes.id := rfl

omit [DecidableEq ι] in
theorem Consistent.versionGap_nonneg (h : net.Consistent) : 0 ≤ net.versionGap := by
  rw [versionGap_eq]
  exact System.gap_nonneg h.capped

/-- No quiet step raises the gap, and a merge lowers it. -/
theorem versionGap_step_le (h : net.Consistent) {a : Action ι} (hadmits : net.Admits a)
    (hquiet : Quiet a) : (net.step ed codec a).versionGap
      + (if net.isMerge ed codec a = true then 1 else 0) ≤ net.versionGap := by
  cases a with
  | perform i op =>
      cases op with
      | processIncomingEnvelope now trust e =>
          rw [versionGap_eq, versionGap_eq, system_step]
          split_ifs with hmerge
          · rw [event_of_isMerge hmerge]
            exact Int.add_one_le_of_lt
              (System.gap_receive_lt h.capped ⟨e, hadmits.1, rfl⟩ (isMerge_iff.mp hmerge).2.2)
          · rw [event, if_neg (mt isMerge_iff.mpr hmerge)]
            exact (add_zero _).le
      | _ => exact hquiet.elim
  | createSyncEnvelope i order messageType messageId timestamp =>
      rw [step_createSyncEnvelope]
      exact (add_zero _).le
  | _ => exact hquiet.elim

/-- **Gossip terminates.** From any state reached without restarts, along any continuation of
deliveries and new envelopes: every merge strictly raises its receiver and takes no copy of a
counter above the author's own; the number of merges is at most the version gap; and a reply that a
peer creates right after merging an envelope of `i` is ALREADY_CURRENT at `i` whenever it is
accepted there, unless the peer knew a version that `i` does not. -/
theorem gossip_terminates {before actions : List (Action ι)}
    (hbefore : Along (step ed codec) Admits (fresh nodes) before)
    (hrun : Along (step ed codec) (fun net a => net.Admits a ∧ Quiet a)
      (run (step ed codec) (fresh nodes) before) actions) :
    let start := run (step ed codec) (fresh nodes) before
    Along (step ed codec) (MergeRaises ed codec) start actions
      ∧ (tally (step ed codec) (isMerge ed codec) start actions : ℤ) ≤ start.versionGap
      ∧ ∀ l l' i j now trust e order messageType messageId timestamp now' trust',
          actions = l ++ .perform j (.processIncomingEnvelope now trust e)
            :: .createSyncEnvelope j order messageType messageId timestamp :: l' →
          e.senderNodeId = nodes.id i →
          let peer := run (step ed codec) start l
          let merged := peer.step ed codec (.perform j (.processIncomingEnvelope now trust e))
          let reply := (merged.service j).signedEnvelope ed order messageType messageId timestamp
          let final := run (step ed codec) start actions
          peer.isMerge ed codec (.perform j (.processIncomingEnvelope now trust e)) = true →
          SyncService.Accepts ed codec now' trust' (final.service i) reply →
            final.deliveryOutcome ed codec (.perform i (.processIncomingEnvelope now' trust' reply))
                = some .alreadyCurrent
              ∨ ∃ k, (final.service i).getVersion k < (peer.service j).getVersion k := by
  intro start
  have hstart := consistent_run hbefore
  refine ⟨hrun.mono (fun net a h hstep => ⟨h.step hstep.1, h.mergeRaises hstep.1⟩) hstart,
    hrun.tally_le (μ := versionGap) (I := Consistent) (fun net h => h.versionGap_nonneg)
      (fun net a h hstep => ⟨h.step hstep.1, versionGap_step_le h hstep.1 hstep.2⟩) hstart, ?_⟩
  rintro l l' i j now trust e order messageType messageId timestamp now' trust' rfl hsender peer
    merged reply final hmerge haccepts
  have hsplit := along_append.mp hrun
  have hl := hsplit.1
  have hdeliver : peer.Admits (.perform j (.processIncomingEnvelope now trust e)) :=
    (along_cons.mp hsplit.2).1.1
  have hadmits : Along (step ed codec) Admits (fresh nodes) (before ++ l) :=
    along_append.mpr ⟨hbefore, hl.mono (I := fun _ => True) (fun _ _ _ h => ⟨trivial, h.1⟩) trivial⟩
  have hbelow : e.getVersion ≤ (peer.service i).getVersion := by
    have hsent := sentBelow_run hadmits
    rw [run_append] at hsent
    obtain ⟨i', hi', hle⟩ := hsent e hdeliver.1
    rwa [nodes.id_injective (hsender.symm.trans hi')]
  have hend : (peer.service i).getVersion ≤ (final.service i).getVersion := by
    have hdurable := hsplit.2.mono (I := fun _ => True)
      (Q := fun _ a => Durable a) (fun _ _ _ h => ⟨trivial, h.1.2⟩) trivial
    have hle := getVersion_le_run hdurable i
    rwa [← run_append (step ed codec) start l] at hle
  exact reply_current (hbelow.trans hend) hmerge haccepts

/-- The delivery that ends the single update, from the state before it. -/
theorem gossip_terminates_singleUpdate :
    let start := run (step transparentEd25519 .unused) (fresh pairNodes) (singleUpdate.take 2)
    (tally (step transparentEd25519 .unused) (isMerge transparentEd25519 .unused) start
      (singleUpdate.drop 2) : ℤ) ≤ start.versionGap := by
  intro start
  have hsplit : Along (step transparentEd25519 .unused) Admits (fresh pairNodes)
      (singleUpdate.take 2 ++ singleUpdate.drop 2) := by
    rw [List.take_append_drop]
    exact admits_singleUpdate
  obtain ⟨hbefore, hrest⟩ := along_append.mp hsplit
  have hdeliver : singleUpdate.drop 2 = [.perform true (.processIncomingEnvelope .epoch pairTrust
      (pairEnvelope updatedPair "m"))] := rfl
  rw [hdeliver] at hrest ⊢
  have hquiet : Along (step transparentEd25519 .unused) (fun net a => net.Admits a ∧ Quiet a) start
      [.perform true (.processIncomingEnvelope .epoch pairTrust (pairEnvelope updatedPair "m"))] :=
    along_cons.mpr ⟨⟨(along_cons.mp hrest).1, trivial⟩, along_nil _⟩
  exact (gossip_terminates hbefore hquiet).2.1

end Net

end Shyam
