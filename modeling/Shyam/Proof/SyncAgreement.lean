import Shyam.Proof.GossipTermination
import Shyam.Proof.Restart

/-!
# Nodes that have heard from each other agree

Once nobody bumps a counter, a node that has heard from another, by itself or through others, knows
all that the other knew when the last bump was made. When everyone has heard from everyone, all hold
one version vector and the same capabilities, and what is still in flight is old news.
-/

namespace Shyam

open Python Gossip Transition

namespace SyncService

variable {s s' : SyncService}

theorem mem_getNodeCapabilities {nodeId capability : String} :
    capability ∈ s.getNodeCapabilities nodeId ↔ (nodeId, capability) ∈ s.facts := mem_sortedCaps

/-- The order in which a set was filled does not show in the sorted list of it. -/
theorem sortedCaps_congr {caps caps' : PySet String} (h : ∀ c, c ∈ caps ↔ c ∈ caps') :
    sortedCaps caps = sortedCaps caps' := by
  have hperm : caps.elems.Perm caps'.elems :=
    (List.perm_ext_iff_of_nodup caps.nodup caps'.nodup).mpr h
  have hsorted : (sortedCaps caps).Perm (sortedCaps caps') :=
    (List.perm_insertionSort _ _).trans (hperm.trans (List.perm_insertionSort _ _).symm)
  exact hsorted.eq_of_pairwise' (List.pairwise_insertionSort _ _) (List.pairwise_insertionSort _ _)

theorem getNodeCapabilities_congr (h : s.facts = s'.facts) (nodeId : String) :
    s.getNodeCapabilities nodeId = s'.getNodeCapabilities nodeId := by
  refine sortedCaps_congr fun c => ?_
  rw [← mem_sortedCaps, ← mem_sortedCaps]
  change c ∈ s.getNodeCapabilities nodeId ↔ c ∈ s'.getNodeCapabilities nodeId
  rw [mem_getNodeCapabilities, mem_getNodeCapabilities, h]

end SyncService

namespace Net

variable {ι : Type} {nodes : Nodes ι} {net : Net nodes} {ed : Ed25519} {codec : RecordCodec}

theorem quiet_event {a : Action ι} (h : Quiet a) : System.Quiet (net.event ed codec a) := by
  cases a with
  | perform i op =>
      cases op with
      | processIncomingEnvelope now trust e =>
          rw [event]
          split_ifs <;> trivial
      | updateLocalFacts capabilities availability => exact h.elim
      | incrementLocalVersion => exact h.elim
  | createSyncEnvelope i order messageType messageId timestamp => trivial
  | restart i => exact h.elim
  | recover i now requestId => exact h.elim

variable [DecidableEq ι]

/-- `j` has heard from `i`: it is `i`, or it has accepted an envelope that was created by someone
who had. -/
inductive Hears (ed : Ed25519) (codec : RecordCodec) (net : Net nodes) :
    List (Action ι) → ι → ι → Prop where
  | own (actions : List (Action ι)) (i : ι) : Hears ed codec net actions i i
  | relayed (before between : List (Action ι)) {after : List (Action ι)}
      {i j k : ι} {order : SetOrder} {messageType messageId : String} {timestamp now : DateTime}
      {trust : TrustService} {e : SyncEnvelope} (hears : Hears ed codec net before i k)
      (created : ((run (step ed codec) net before).service k).signedEnvelope ed order
        messageType messageId timestamp = e)
      (accepts : SyncService.Accepts ed codec now trust ((run (step ed codec) net (before
        ++ .createSyncEnvelope k order messageType messageId timestamp :: between)).service j) e) :
      Hears ed codec net
        (before ++ .createSyncEnvelope k order messageType messageId timestamp :: between
          ++ .perform j (.processIncomingEnvelope now trust e) :: after) i j

/-! ### What has been heard is known -/

/-- What an accepted envelope counts is counted after it, merged or skipped. -/
theorem Tracked.getVersion_le_deliver (h : net.Tracked) {i : ι} {now : DateTime}
    {trust : TrustService} {e : SyncEnvelope} (hsent : e ∈ net.sent)
    (haccepts : SyncService.Accepts ed codec now trust (net.service i) e) :
    e.getVersion
      ≤ ((net.step ed codec
        (.perform i (.processIncomingEnvelope now trust e))).service i).getVersion := by
  by_cases hmerges : SyncService.Merges ed codec now trust (net.service i) e
  · rw [getVersion_step_of_merges hmerges]
    exact le_sup_right
  · have hskip : e.getVersion ≤ (net.service i).getVersion := by
      by_cases hdup : e.messageId ∈ (net.service i).processedMessageIds
      · exact h.getVersion_le hsent hdup
      · by_contra hle
        exact hmerges ⟨haccepts, hdup, hle⟩
    exact hskip.trans (getVersion_le_step (a := .perform i _) trivial i)

theorem Hears.getVersion_le {actions : List (Action ι)} {i j : ι}
    (h : Hears ed codec net actions i j) (htracked : net.Tracked)
    (hrun : Along (step ed codec) (fun net a => net.Allows a ∧ Durable a) net actions) :
    (net.service i).getVersion ≤ ((run (step ed codec) net actions).service j).getVersion := by
  have hdurable {net : Net nodes} {actions : List (Action ι)}
      (hrun : Along (step ed codec) (fun net a => net.Allows a ∧ Durable a) net actions) :
      Along (step ed codec) (fun _ a => Durable a) net actions :=
    hrun.mono (I := fun _ => True) (fun _ _ _ h => ⟨trivial, h.2⟩) trivial
  induction h with
  | own actions i => exact getVersion_le_run (hdurable hrun) i
  | @relayed before between after i j k order messageType messageId timestamp now trust e hears
      created accepts ih =>
      obtain ⟨hsent', hdeliver⟩ := along_append.mp hrun
      obtain ⟨hbefore, hcreate⟩ := along_append.mp hsent'
      obtain ⟨-, hbetween⟩ := along_cons.mp hcreate
      have hpeer :
        (run (step ed codec) net
          (before ++ .createSyncEnvelope k order messageType messageId timestamp
            :: between)).Tracked := hsent'.invariant (fun _ _ h hstep => h.step hstep.1) htracked
      calc
        (net.service i).getVersion ≤ ((run (step ed codec) net before).service k).getVersion :=
          ih hbefore
        _ = e.getVersion := by rw [← created, SyncService.getVersion_signedEnvelope]
        _ ≤ _ := hpeer.getVersion_le_deliver (along_cons.mp hdeliver).1.1 accepts
        _ ≤ _ := by
            rw [run_append (step ed codec) net (_ ++ _), run_cons]
            exact getVersion_le_run (hdurable (along_cons.mp hdeliver).2) j

/-! ### Nothing else is known -/

/-- What quiet steps from `start` on leave as it is. -/
structure Within (start net : Net nodes) : Prop where
  consistent : net.Consistent
  own : ∀ k, (net.service k).getVersion (nodes.id k) = (start.service k).getVersion (nodes.id k)
  facts : ∀ r, net.system.Snapshot r → r.facts ⊆ ⋃ i, (start.service i).facts

omit [DecidableEq ι] in
theorem Within.refl (h : net.Consistent) (hsent : net.SentBelow) : Within net net where
  consistent := h
  own _ := rfl
  facts := by
    rintro r (⟨i, rfl⟩ | ⟨e, he, rfl⟩)
    · exact Set.subset_iUnion (fun i => (net.service i).facts) i
    · obtain ⟨i, -, hle⟩ := hsent e he
      exact (h.envelope_facts_subset he hle).trans
        (Set.subset_iUnion (fun i => (net.service i).facts) i)

theorem Within.step {start : Net nodes} (h : Within start net) {a : Action ι}
    (hadmits : net.Admits a) (hquiet : Quiet a) : Within start (net.step ed codec a) where
  consistent := h.consistent.step hadmits
  own k := by
    have hallowed : net.system.Allowed (net.event ed codec a) := allowed_event hadmits.1
    have hown := System.own_step_of_quiet h.consistent.capped hallowed (quiet_event hquiet) k
    rw [← system_step] at hown
    exact hown.trans (h.own k)
  facts := by
    rw [system_step]
    exact System.facts_step_of_quiet h.facts (allowed_event hadmits.1) (quiet_event hquiet)

/-! ### Agreement -/

/-- All nodes hold what the nodes of `start` held among them, and no envelope says more. -/
structure Agreement (ed : Ed25519) (codec : RecordCodec) (start net : Net nodes) : Prop where
  versions : ∀ i j, (net.service i).getVersion = (net.service j).getVersion
  newest : ∀ i k, (net.service i).getVersion (nodes.id k)
    = (start.service k).getVersion (nodes.id k)
  capabilities : ∀ i j nodeId, (net.service i).getNodeCapabilities nodeId
    = (net.service j).getNodeCapabilities nodeId
  complete : ∀ j nodeId capability, capability ∈ (net.service j).getNodeCapabilities nodeId
    ↔ ∃ i, capability ∈ (start.service i).getNodeCapabilities nodeId
  current : ∀ j, ∀ e ∈ net.sent, ∀ now trust,
    SyncService.Accepts ed codec now trust (net.service j) e →
    net.deliveryOutcome ed codec (.perform j (.processIncomingEnvelope now trust e))
      = some .alreadyCurrent

omit [DecidableEq ι] in
theorem agreement_of_within {start : Net nodes} (h : Within start net) (hsent : net.SentBelow)
    (hheard : ∀ i j, (start.service i).getVersion ≤ (net.service j).getVersion)
    (hkept : ∀ i, (start.service i).facts ⊆ (net.service i).facts) :
    Agreement ed codec start net := by
  have hnewest (i k : ι) :
      (net.service i).getVersion (nodes.id k) = (start.service k).getVersion (nodes.id k) := by
    refine le_antisymm ?_ (hheard k i _)
    rw [← h.own k]
    exact h.consistent.getVersion_le i k
  have hversions (i j : ι) : (net.service i).getVersion = (net.service j).getVersion := by
    funext a
    by_cases hauthor : ∃ k, nodes.id k = a
    · obtain ⟨k, rfl⟩ := hauthor
      rw [hnewest, hnewest]
    · have hnone : ∀ k, nodes.id k ≠ a := fun k hk => hauthor ⟨k, hk⟩
      have hzero (i : ι) : (net.service i).getVersion a = 0 :=
        h.consistent.capped.zero_of_not_author _ (snapshot_service i) a hnone
      rw [hzero, hzero]
  have hsame (i j : ι) : (net.service i).facts = (net.service j).facts :=
    (h.consistent.facts_subset (hversions i j).le).antisymm
      (h.consistent.facts_subset (hversions i j).ge)
  refine ⟨hversions, hnewest,
    fun i j nodeId => SyncService.getNodeCapabilities_congr (hsame i j) nodeId,
    fun j nodeId capability => ?_, fun j e he now trust haccepts => ?_⟩
  · simp only [SyncService.mem_getNodeCapabilities]
    constructor
    · intro hmem
      exact Set.mem_iUnion.mp (h.facts _ (snapshot_service j) hmem)
    · rintro ⟨i, hmem⟩
      exact hsame i j ▸ hkept i hmem
  · obtain ⟨i, -, hle⟩ := hsent e he
    exact deliveryOutcome_of_dominated haccepts (hle.trans (hversions i j).le)

/-- **Agreement.** From any state reached without restarts, along any deliveries and new envelopes
after which everyone has heard from everyone: all nodes hold one version vector, each component of
it the author's own, and the same capabilities, those that the nodes held among them; and every
envelope in flight is ALREADY_CURRENT where it is accepted. -/
theorem nodes_agree {before actions : List (Action ι)}
    (hbefore : Along (step ed codec) Admits (fresh nodes) before)
    (hrun : Along (step ed codec) (fun net a => net.Admits a ∧ Quiet a)
      (run (step ed codec) (fresh nodes) before) actions)
    (hheard : ∀ i j, Hears ed codec (run (step ed codec) (fresh nodes) before) actions i j) :
    Agreement ed codec (run (step ed codec) (fresh nodes) before)
      (run (step ed codec) (fresh nodes) (before ++ actions)) := by
  set start := run (step ed codec) (fresh nodes) before with hstart
  have hadmits : Along (step ed codec) Admits start actions :=
    hrun.mono (I := fun _ => True) (fun _ _ _ h => ⟨trivial, h.1⟩) trivial
  have hwithin : Within start (run (step ed codec) start actions) :=
    hrun.invariant (fun _ _ h hstep => h.step hstep.1 hstep.2)
      (.refl (consistent_run hbefore) (sentBelow_run hbefore))
  have hsent : (run (step ed codec) (fresh nodes) (before ++ actions)).SentBelow :=
    sentBelow_run (along_append.mpr ⟨hbefore, hadmits⟩)
  have htracked : start.Tracked :=
    hbefore.invariant (fun _ _ h hstep => h.step hstep.1) tracked_fresh
  have hknown (i j : ι) :
      (start.service i).getVersion ≤ ((run (step ed codec) start actions).service j).getVersion :=
    (hheard i j).getVersion_le htracked hadmits
  rw [run_append, ← hstart] at hsent ⊢
  refine agreement_of_within hwithin hsent hknown fun i => ?_
  exact hadmits.related (R :=
    fun net net' : Net nodes => (net.service i).facts ⊆ (net'.service i).facts)
    Set.Subset.trans (fun _ => Set.Subset.rfl) fun _ _ h => facts_subset_step h.2 i

/-! ### Two nodes that answer each other -/

/-- `b` after the update of `a` reached it. -/
def informedPair : SyncService :=
  ((fresh pairNodes).service true).perform transparentEd25519 .unused
    (.processIncomingEnvelope .epoch pairTrust (pairEnvelope updatedPair "m"))

/-- The update of `a` is on its way to `b`, and `b` answers. -/
def exchange : List (Action Bool) := [
  .createSyncEnvelope false .insertion "sync_response" "m" .epoch,
  .perform true (.processIncomingEnvelope .epoch pairTrust (pairEnvelope updatedPair "m")),
  .createSyncEnvelope true .insertion "sync_response" "n" .epoch,
  .perform false (.processIncomingEnvelope .epoch pairTrust (pairEnvelope informedPair "n"))]

def reportedOnce : List (Action Bool) := [
  .perform false
    (.updateLocalFacts (some reportedCapabilities) (some (reportedAvailability "x" "up")))]

abbrev reported : Net pairNodes :=
  run (step transparentEd25519 .unused) (fresh pairNodes) reportedOnce

theorem service_reported : reported.service false = updatedPair
    ∧ reported.service true = (fresh pairNodes).service true := by
  have hne : true ≠ false := by decide
  simp only [reported, reportedOnce, run_cons, run_nil, step_perform_self, step_perform_of_ne hne,
    SyncService.perform_updateLocalFacts]
  exact ⟨rfl, trivial⟩

theorem service_exchange :
    (run (step transparentEd25519 .unused) reported (exchange.take 2)).service true
    = informedPair := by
  have htake : exchange.take 2 = [
    .createSyncEnvelope false .insertion "sync_response" "m" .epoch,
    .perform true (.processIncomingEnvelope .epoch pairTrust (pairEnvelope updatedPair "m"))] := rfl
  rw [htake, run_cons, run_cons, run_nil, step_perform_self, step_createSyncEnvelope_service,
    service_reported.2, informedPair]

theorem localNodeId_informedPair : informedPair.localNodeId = "b" := by
  rw [informedPair, SyncService.localNodeId_perform]
  rfl

theorem accepts_update (s : SyncService) (hs : s.localNodeId = "b") :
    SyncService.Accepts transparentEd25519 .unused .epoch pairTrust s
      (pairEnvelope updatedPair "m") := by
  refine accepts_pairEnvelope _ _ _ ?_ (by decide) (by decide)
  rw [hs]
  decide

theorem accepts_answer (s : SyncService) (hs : s.localNodeId = "a") :
    SyncService.Accepts transparentEd25519 .unused .epoch pairTrust s
      (pairEnvelope informedPair "n") := by
  refine accepts_pairEnvelope _ _ _ ?_ ?_ ?_
  · rw [hs, localNodeId_informedPair]
    decide
  · rw [localNodeId_informedPair]
    decide
  · rw [localNodeId_informedPair]
    decide

theorem hears_exchange (i j : Bool) : Hears transparentEd25519 .unused reported exchange i j := by
  cases i with
  | false =>
      cases j with
      | false => exact .own _ _
      | true =>
          refine .relayed [] [] (.own _ false) ?_
            (accepts_update _ (Net.named _ true))
          exact congrArg (pairEnvelope · "m") service_reported.1
  | true =>
      cases j with
      | true => exact .own _ _
      | false =>
          refine .relayed (exchange.take 2) [] (.own _ true) ?_
            (accepts_answer _ (Net.named _ false))
          exact congrArg (pairEnvelope · "n") service_exchange

theorem nodes_agree_exchange : Agreement transparentEd25519 .unused reported
    (run (step transparentEd25519 .unused) (fresh pairNodes) (reportedOnce ++ exchange)) := by
  refine nodes_agree (along_cons.mpr ⟨⟨trivial, trivial⟩, along_nil _⟩) ?_ hears_exchange
  have hupdate : (reported.service false).signedEnvelope transparentEd25519 .insertion
    "sync_response" "m" .epoch
      = pairEnvelope updatedPair "m" := congrArg (pairEnvelope · "m") service_reported.1
  have hanswer := congrArg (pairEnvelope · "n") service_exchange
  have htake : exchange.take 2 = [
    .createSyncEnvelope false .insertion "sync_response" "m" .epoch,
    .perform true (.processIncomingEnvelope .epoch pairTrust (pairEnvelope updatedPair "m"))] := rfl
  simp only [htake, run_cons, run_nil] at hanswer
  have hsent : reported.sent = [] := rfl
  refine ⟨⟨⟨?_, trivial⟩, trivial⟩, ⟨⟨?_, trivial⟩, trivial⟩, ⟨⟨?_, trivial⟩, trivial⟩,
    ⟨⟨?_, trivial⟩, trivial⟩, trivial⟩
  · exact fun e he => absurd he List.not_mem_nil
  · change pairEnvelope updatedPair "m" ∈ (Net.step _ _ reported _).sent
    rw [step_createSyncEnvelope, hupdate]
    exact List.mem_cons_self
  · change ∀ e ∈ (Net.step _ _ (Net.step _ _ reported _) _).sent, e.messageId ≠ "n"
    rw [step_perform_sent, step_createSyncEnvelope, hsent]
    exact List.forall_mem_singleton.mpr (by rw [SyncService.messageId_signedEnvelope]; decide)
  · change pairEnvelope informedPair "n"
      ∈ (Net.step _ _ (Net.step _ _ (Net.step _ _ reported _) _) _).sent
    rw [step_createSyncEnvelope]
    exact List.mem_cons.mpr (Or.inl hanswer.symm)

end Net

end Shyam
