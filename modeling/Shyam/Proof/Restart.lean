import Shyam.Proof.CapabilityKnowledge

/-!
# Restarts and reused counters

A restart forgets the counter that orders a node's updates, while peers and envelopes keep their
copies of it. As long as a node bumps only a counter that nobody has seen higher, each number still
stands for one update, one ledger explains every replica, and skipping a dominated envelope loses
nothing. A node that bumps a counter that fell behind reuses numbers, and peers skip what it
publishes under them.
-/

namespace Shyam

open Python Gossip Transition

namespace SyncService

variable {ed : Ed25519} {codec : RecordCodec} {now : DateTime} {trust : TrustService}
  {s : SyncService} {e : SyncEnvelope} {msgId : String}

theorem mem_of_mem_remember {id : String} (h : id ∈ (s.remember msgId).processedMessageIds) :
    id ∈ s.processedMessageIds ∨ id = msgId := by
  have happend : id ∈ s.processedMessageIds ++ [msgId] := List.mem_of_mem_drop h
  simpa using happend

/-- A tracked id was tracked before, or is that of the envelope and its vector is covered now. -/
theorem mem_of_mem_process {id : String}
    (h : id ∈ (s.processIncomingEnvelope ed codec now trust e).service.processedMessageIds) :
    id ∈ s.processedMessageIds ∨ id = e.messageId
      ∧ e.getVersion ≤ (s.processIncomingEnvelope ed codec now trust e).service.getVersion := by
  by_cases haccepts : Accepts ed codec now trust s e
  · rw [(process_of_accepts haccepts).1] at h ⊢
    rcases ingest_cases s e with ⟨-, hs, -⟩ | ⟨-, hle, hs, -⟩ | ⟨-, -, hs, -⟩
    · rw [hs] at h
      exact Or.inl h
    · rw [hs] at h ⊢
      exact (mem_of_mem_remember h).imp_right fun hid => ⟨hid, hle⟩
    · rw [hs] at h ⊢
      refine (mem_of_mem_remember h).imp_right fun hid => ⟨hid, ?_⟩
      rw [show ((s.mergeEnvelope e).remember e.messageId).getVersion = s.getVersion ⊔ e.getVersion
        from getVersion_mergeVersionMaps]
      exact le_sup_right
  · rw [process_of_not_accepts haccepts] at h
    exact Or.inl h

/-- Processing an accepted envelope makes its facts known, unless skipping it loses some. -/
theorem facts_subset_process (haccepts : Accepts ed codec now trust s e)
    (hskip : e.messageId ∈ s.processedMessageIds ∨ e.getVersion ≤ s.getVersion →
      e.facts ⊆ s.facts) :
    e.facts ⊆ (s.processIncomingEnvelope ed codec now trust e).service.facts := by
  by_cases hmerges : Merges ed codec now trust s e
  · have hjoin := congrArg Replica.facts (replica_process_of_merges hmerges)
    rw [replica_facts, Replica.receive_of_not_le hmerges.2.2] at hjoin
    rw [hjoin]
    exact Set.subset_union_right
  · have hkeep := congrArg Replica.facts (replica_process_of_not_merges hmerges)
    rw [replica_facts, replica_facts] at hkeep
    rw [hkeep]
    apply hskip
    by_contra hnone
    rw [not_or] at hnone
    exact hmerges ⟨haccepts, hnone⟩

end SyncService

namespace Net

variable {ι : Type} {nodes : Nodes ι} {net : Net nodes} {ed : Ed25519} {codec : RecordCodec}

/-- No service and no envelope holds a higher value of the node's counter than the node. -/
def UpToDate (net : Net nodes) (i : ι) : Prop :=
  (∀ j, (net.service j).getVersion (nodes.id i) ≤ (net.service i).getVersion (nodes.id i))
    ∧ ∀ e ∈ net.sent, e.getVersion (nodes.id i) ≤ (net.service i).getVersion (nodes.id i)

def BumpsUpToDate (net : Net nodes) : Action ι → Prop
  | .perform i (.updateLocalFacts _ _) => net.UpToDate i
  | .perform i .incrementLocalVersion => net.UpToDate i
  | .recover i _ _ => net.UpToDate i
  | _ => True

theorem UpToDate.current {i : ι} (h : net.UpToDate i) (fs : Set Fact) :
    net.system.Current nodes.id (.publish i fs) := by
  rintro r (⟨j, rfl⟩ | ⟨e, he, rfl⟩)
  · exact h.1 j
  · exact h.2 e he

theorem current_event {a : Action ι} (h : net.BumpsUpToDate a) :
    net.system.Current nodes.id (net.event ed codec a) := by
  cases a with
  | perform i op =>
      cases op with
      | updateLocalFacts capabilities availability => exact UpToDate.current h _
      | incrementLocalVersion => exact UpToDate.current h _
      | processIncomingEnvelope now trust e =>
          rw [event]
          split_ifs <;> trivial
  | recover i now requestId => exact UpToDate.current h _
  | _ => trivial

/-! ### The duplicate tracker -/

/-- Envelopes have ids of their own, and a tracked id belongs to one whose vector is covered. -/
structure Tracked (net : Net nodes) : Prop where
  distinct : ∀ e ∈ net.sent, ∀ e' ∈ net.sent, e.messageId = e'.messageId → e = e'
  heard : ∀ i, ∀ id ∈ (net.service i).processedMessageIds,
    ∃ e ∈ net.sent, e.messageId = id ∧ e.getVersion ≤ (net.service i).getVersion

theorem tracked_fresh : (fresh nodes).Tracked where
  distinct _ he := absurd he List.not_mem_nil
  heard _ _ hid := absurd hid List.not_mem_nil

theorem Tracked.getVersion_le (h : net.Tracked) {i : ι} {e : SyncEnvelope} (he : e ∈ net.sent)
    (hdup : e.messageId ∈ (net.service i).processedMessageIds) :
    e.getVersion ≤ (net.service i).getVersion := by
  obtain ⟨e', he', hid, hle⟩ := h.heard i _ hdup
  rwa [h.distinct e he e' he' hid.symm]

theorem Tracked.withHistory (h : net.Tracked) (history : List LocalUpdate) :
    Tracked { net with history := history } := ⟨h.distinct, h.heard⟩

variable [DecidableEq ι]

theorem Tracked.put (h : net.Tracked) {i : ι} {s : SyncService} (hs : s.localNodeId = nodes.id i)
    (hheard : ∀ id ∈ s.processedMessageIds,
      ∃ e ∈ net.sent, e.messageId = id ∧ e.getVersion ≤ s.getVersion) :
    (net.put i s hs).Tracked where
  distinct := h.distinct
  heard := by
    intro j
    by_cases hj : j = i
    · subst hj
      rw [put_service_self]
      exact hheard
    · rw [put_service_of_ne net hj]
      exact h.heard j

theorem Tracked.step (h : net.Tracked) {a : Action ι} (hallows : net.Allows a) :
    (net.step ed codec a).Tracked := by
  -- a service whose vector grows and which tracks nothing new keeps tracking
  have hgrow (i : ι) (s : SyncService) (hids : s.processedMessageIds =
      (net.service i).processedMessageIds) (hle : (net.service i).getVersion ≤ s.getVersion) :
      ∀ id ∈ s.processedMessageIds,
        ∃ e ∈ net.sent, e.messageId = id ∧ e.getVersion ≤ s.getVersion := by
    intro id hid
    obtain ⟨e, he, heq, hcovered⟩ := h.heard i id (hids ▸ hid)
    exact ⟨e, he, heq, hcovered.trans hle⟩
  cases a with
  | perform i op =>
      refine (h.put _ ?_).withHistory _
      have hle : (net.service i).getVersion ≤ ((net.service i).perform ed codec op).getVersion :=
        SyncService.getVersion_le_perform op
      cases op with
      | updateLocalFacts capabilities availability => exact hgrow i _ rfl hle
      | incrementLocalVersion => exact hgrow i _ rfl hle
      | processIncomingEnvelope now trust e =>
          intro id hid
          rw [SyncService.perform_processIncomingEnvelope] at hid hle ⊢
          rcases SyncService.mem_of_mem_process hid with hold | ⟨rfl, hcovered⟩
          · obtain ⟨e', he', heq, hcovered⟩ := h.heard i id hold
            exact ⟨e', he', heq, hcovered.trans hle⟩
          · exact ⟨e, hallows, rfl, hcovered⟩
  | createSyncEnvelope i order messageType messageId timestamp =>
      rw [step_createSyncEnvelope]
      constructor
      · intro e he e' he' heq
        rcases List.mem_cons.mp he with rfl | he
        · rcases List.mem_cons.mp he' with rfl | he'
          · rfl
          · exact absurd heq.symm (hallows e' he')
        · rcases List.mem_cons.mp he' with rfl | he'
          · exact absurd heq (hallows e he)
          · exact h.distinct e he e' he' heq
      · intro j id hid
        obtain ⟨e, he, hcovered⟩ := h.heard j id hid
        exact ⟨e, List.mem_cons_of_mem _ he, hcovered⟩
  | restart i => exact h.put ((fresh nodes).named i) fun id hid => absurd hid List.not_mem_nil
  | recover i now requestId =>
      refine (h.put _ ?_).withHistory _
      have hle : (net.service i).getVersion
          ≤ ((net.service i).perform ed codec .incrementLocalVersion).getVersion :=
        SyncService.getVersion_le_perform .incrementLocalVersion
      rw [recovered_eq]
      exact hgrow i _ rfl hle

/-! ### Runs with restarts -/

/-- What the network keeps across restarts. -/
structure Recoverable (net : Net nodes) : Prop where
  explained : net.system.Explained
  tracked : net.Tracked

omit [DecidableEq ι] in
theorem recoverable_fresh : (fresh nodes).Recoverable := ⟨consistent_fresh.explained, tracked_fresh⟩

theorem Recoverable.step (h : net.Recoverable) {a : Action ι}
    (hstep : net.Allows a ∧ net.BumpsUpToDate a) : (net.step ed codec a).Recoverable where
  explained := by
    rw [system_step]
    exact System.explained_step h.explained (allowed_event hstep.1) (current_event hstep.2)
  tracked := h.tracked.step hstep.1

omit [DecidableEq ι] in
/-- Skipped as a duplicate or as dominated, a created envelope carries known facts only. -/
theorem Recoverable.facts_subset (h : net.Recoverable) {i : ι} {e : SyncEnvelope}
    (he : e ∈ net.sent) (hskip : e.messageId ∈ (net.service i).processedMessageIds
      ∨ e.getVersion ≤ (net.service i).getVersion) : e.facts ⊆ (net.service i).facts := by
  apply h.explained.facts_subset (snapshot_service i) (snapshot_sent he)
  rcases hskip with hdup | hle
  · exact h.tracked.getVersion_le he hdup
  · exact hle

theorem sent_subset_step (net : Net nodes) (a : Action ι) :
    net.sent ⊆ (net.step ed codec a).sent := by
  intro e he
  cases a with
  | createSyncEnvelope i order messageType messageId timestamp =>
      rw [step_createSyncEnvelope]
      exact List.mem_cons_of_mem _ he
  | _ => exact he

/-- The capability facts that the actions pass to `update_local_facts` of a node. -/
def passed (actions : List (Action ι)) (i : ι) : Set Fact :=
  {f | ∃ capabilities availability,
    .perform i (.updateLocalFacts (some capabilities) availability) ∈ actions
      ∧ f ∈ factsOf capabilities}

variable (ed codec nodes) in
/-- A node that creates an envelope still holds every capability fact it was passed. -/
def RetainsFacts (actions : List (Action ι)) : Prop :=
  ∀ before i order messageType messageId timestamp,
    before ++ [.createSyncEnvelope i order messageType messageId timestamp] <+: actions →
    passed before i ⊆ ((run (step ed codec) (fresh nodes) before).service i).facts

variable (ed codec nodes) in
/-- Once a node has processed an envelope that authenticates, it holds every capability fact that
the creator was passed before creating it. -/
def FactsArrive (actions : List (Action ι)) : Prop :=
  ∀ before between i j order messageType messageId timestamp now trust,
    let created := before ++ .createSyncEnvelope i order messageType messageId timestamp :: between
    let e := ((run (step ed codec) (fresh nodes) before).service i).signedEnvelope ed order
      messageType messageId timestamp
    let net := run (step ed codec) (fresh nodes) created
    created ++ [.perform j (.processIncomingEnvelope now trust e)] <+: actions →
    SyncService.Accepts ed codec now trust (net.service j) e →
    passed before i ⊆ ((net.step ed codec
      (.perform j (.processIncomingEnvelope now trust e))).service j).facts

/-- **Facts across restarts.** In every run, with restarts and recoveries at any time, whose bumps
are all of up to date counters and whose envelopes are created by nodes that still hold what they
were passed, the facts arrive. -/
theorem facts_arrive {actions : List (Action ι)}
    (hrun : Along (step ed codec) (fun net a => net.Allows a ∧ net.BumpsUpToDate a)
      (fresh nodes) actions)
    (hretains : RetainsFacts nodes ed codec actions) : FactsArrive nodes ed codec actions := by
  intro before between i j order messageType messageId timestamp now trust created e net hprefix
    haccepts
  have hcreated : Along (step ed codec) (fun net a => net.Allows a ∧ net.BumpsUpToDate a)
      (fresh nodes) created := by
    obtain ⟨rest, rfl⟩ := hprefix
    exact (along_append.mp (along_append.mp hrun).1).1
  have hrecoverable : net.Recoverable :=
    hcreated.invariant (fun _ _ h hstep => h.step hstep) recoverable_fresh
  have hsent : e ∈ net.sent := by
    have hlater :=
      (along_append.mp hcreated).2.2.related (R := fun net net' => net.sent ⊆ net'.sent)
      List.Subset.trans (fun net => List.Subset.refl net.sent)
      (fun net a _ => sent_subset_step net a)
    change e ∈ (run (step ed codec) (fresh nodes) created).sent
    rw [run_append, run_cons]
    apply hlater
    rw [step_createSyncEnvelope]
    exact List.mem_cons_self
  calc passed before i
      ⊆ ((run (step ed codec) (fresh nodes) before).service i).facts := by
        apply hretains before i order messageType messageId timestamp
        refine List.IsPrefix.trans ?_ hprefix
        exact ⟨between ++ [.perform j (.processIncomingEnvelope now trust e)], by simp [created]⟩
    _ = e.facts := (congrArg Replica.facts (SyncService.replica_signedEnvelope ..)).symm
    _ ⊆ _ := by
        rw [step_perform_self, SyncService.perform_processIncomingEnvelope]
        exact SyncService.facts_subset_process haccepts (hrecoverable.facts_subset hsent)

theorem facts_subset_step {a : Action ι} (hdurable : Durable a) (j : ι) :
    (net.service j).facts ⊆ ((net.step ed codec a).service j).facts := by
  have hevent : System.Durable (net.event ed codec a) := durable_event hdurable
  have hfacts : (net.system.replica j).facts
      ⊆ ((net.system.step nodes.id (net.event ed codec a)).replica j).facts :=
    System.facts_subset_step hevent j
  rwa [← system_step] at hfacts

theorem retainsFacts_of_durable {actions : List (Action ι)} (hdurable : ∀ a ∈ actions, Durable a) :
    RetainsFacts nodes ed codec actions := by
  intro before i order messageType messageId timestamp hprefix
  have hbefore : ∀ a ∈ before, Durable a := by
    intro a ha
    exact hdurable a (List.IsPrefix.subset hprefix (List.mem_append_left _ ha))
  clear hprefix
  induction before using List.reverseRecOn with
  | nil =>
      rintro f ⟨capabilities, availability, hmem, -⟩
      exact absurd hmem List.not_mem_nil
  | append_singleton before a ih =>
      have hold := ih fun a' ha' => hbefore a' (List.mem_append_left _ ha')
      have ha : Durable a := hbefore a (List.mem_append_right _ List.mem_cons_self)
      rw [run_append, run_cons, run_nil]
      rintro f ⟨capabilities, availability, hmem, hf⟩
      rcases List.mem_append.mp hmem with hmem | hmem
      · exact facts_subset_step ha i (hold ⟨capabilities, availability, hmem, hf⟩)
      · rw [List.mem_singleton] at hmem
        subst hmem
        rw [step_perform_self, SyncService.perform_updateLocalFacts,
          SyncService.facts_updateLocalFacts]
        exact Or.inr hf

omit [DecidableEq ι] in
theorem Consistent.bumpsUpToDate (h : net.Consistent) (a : Action ι) : net.BumpsUpToDate a := by
  have hupToDate (i : ι) : net.UpToDate i :=
    ⟨fun j => h.getVersion_le j i, fun e he => h.capped.le_own _ (snapshot_sent he) i⟩
  cases a with
  | perform i op =>
      cases op with
      | processIncomingEnvelope now trust e => trivial
      | _ => exact hupToDate i
  | recover i now requestId => exact hupToDate i
  | _ => trivial

theorem facts_arrive_singleUpdate :
    FactsArrive pairNodes transparentEd25519 .unused singleUpdate := by
  have hrun : Along (step transparentEd25519 .unused)
    (fun net a => net.Allows a ∧ net.BumpsUpToDate a)
      (fresh pairNodes) singleUpdate :=
    admits_singleUpdate.mono (I := Consistent)
      (fun _ a h hadmits => ⟨h.step hadmits, hadmits.1, h.bumpsUpToDate a⟩) consistent_fresh
  refine facts_arrive hrun (retainsFacts_of_durable fun a ha => ?_)
  rcases List.mem_cons.mp ha with rfl | ha
  · trivial
  · rcases List.mem_cons.mp ha with rfl | ha
    · trivial
    · rw [List.mem_singleton.mp ha]
      trivial

/-! ### A counter that is reused -/

@[simp] theorem step_restart_self (i : ι) :
    (net.step ed codec (.restart i)).service i = (fresh nodes).service i := Function.update_self ..

theorem step_restart_of_ne {i j : ι} (hj : j ≠ i) :
    (net.step ed codec (.restart i)).service j = net.service j := Function.update_of_ne hj ..

theorem step_restart_sent (i : ι) : (net.step ed codec (.restart i)).sent = net.sent := by
  rw [step]
  rfl

@[simp] theorem step_recover_self (i : ι) (now : DateTime) (requestId : String) :
    (net.step ed codec (.recover i now requestId)).service i
      = (net.service i).incrementLocalVersion.2 := Function.update_self ..

theorem step_recover_of_ne {i j : ι} (hj : j ≠ i) (now : DateTime) (requestId : String) :
    (net.step ed codec (.recover i now requestId)).service j = net.service j :=
  Function.update_of_ne hj ..

theorem step_recover_sent (i : ι) (now : DateTime) (requestId : String) :
    (net.step ed codec (.recover i now requestId)).sent = net.sent := by
  rw [step]
  rfl

theorem step_createSyncEnvelope_service (i : ι) (order : SetOrder) (messageType messageId : String)
    (timestamp : DateTime) : (net.step ed codec
      (.createSyncEnvelope i order messageType messageId timestamp)).service = net.service := by
  rw [step_createSyncEnvelope]

def republishedCapabilities : Dict (List String) := ⟨[("x", ["microphone"])], by decide⟩

/-- `a` before its restart: it has published one fact and bumped its counter to `2`. -/
def beforeRestart : SyncService :=
  (((fresh pairNodes).service false).updateLocalFacts (some reportedCapabilities)
    none).incrementLocalVersion.2

/-- `a` after its restart and recovery: it has published another fact, at `2` again. -/
def afterRestart : SyncService :=
  ((fresh pairNodes).service false).incrementLocalVersion.2.updateLocalFacts
    (some republishedCapabilities) none

/-- `b` after receiving what `a` sent before its restart. -/
def restartReader : SyncService :=
  ((fresh pairNodes).service true).perform transparentEd25519 .unused
    (.processIncomingEnvelope .epoch pairTrust (pairEnvelope beforeRestart "m"))

def reuse : List (Action Bool) := [
  .perform false (.updateLocalFacts (some reportedCapabilities) none),
  .perform false .incrementLocalVersion,
  .createSyncEnvelope false .insertion "sync_response" "m" .epoch,
  .perform true (.processIncomingEnvelope .epoch pairTrust (pairEnvelope beforeRestart "m")),
  .restart false,
  .recover false .epoch "r",
  .perform false (.updateLocalFacts (some republishedCapabilities) none)]

def reuseSent : List (Action Bool) :=
  reuse ++ [.createSyncEnvelope false .insertion "sync_response" "n" .epoch]

def reuseDelivered : List (Action Bool) :=
  reuseSent ++ [
    .perform true (.processIncomingEnvelope .epoch pairTrust (pairEnvelope afterRestart "n"))]

theorem service_reuse_false :
    (run (step transparentEd25519 .unused) (fresh pairNodes) reuse).service false
      = afterRestart := by
  simp only [reuse, run_cons, run_nil, step_perform_self, step_recover_self, step_restart_self,
    SyncService.perform_updateLocalFacts]
  rfl

theorem service_reuse_true :
    (run (step transparentEd25519 .unused) (fresh pairNodes) reuse).service true
      = restartReader := by
  have hne : true ≠ false := by decide
  simp only [reuse, run_cons, run_nil]
  rw [step_perform_of_ne hne, step_recover_of_ne hne, step_restart_of_ne hne, step_perform_self,
    step_createSyncEnvelope_service, step_perform_of_ne hne, step_perform_of_ne hne, restartReader]

theorem sent_reuse : (run (step transparentEd25519 .unused) (fresh pairNodes) reuse).sent
    = [pairEnvelope beforeRestart "m"] := by
  have hne : false ≠ true := by decide
  simp only [reuse, run_cons, run_nil, step_perform_sent, step_recover_sent, step_restart_sent,
    step_createSyncEnvelope, step_perform_self, SyncService.perform_updateLocalFacts,
    SyncService.perform_incrementLocalVersion]
  rfl

theorem accepts_beforeRestart : SyncService.Accepts transparentEd25519 .unused .epoch pairTrust
    ((fresh pairNodes).service true) (pairEnvelope beforeRestart "m") :=
  accepts_pairEnvelope _ _ _ (by decide) (by decide) (by decide)

theorem merges_beforeRestart : SyncService.Merges transparentEd25519 .unused .epoch pairTrust
    ((fresh pairNodes).service true) (pairEnvelope beforeRestart "m") :=
  ⟨accepts_beforeRestart, List.not_mem_nil, fun hle => absurd (hle "a") (by decide)⟩

theorem accepts_afterRestart : SyncService.Accepts transparentEd25519 .unused .epoch pairTrust
    restartReader (pairEnvelope afterRestart "n") := by
  refine accepts_pairEnvelope _ _ _ ?_ (by decide) (by decide)
  rw [restartReader, SyncService.localNodeId_perform]
  decide

theorem getVersion_afterRestart : afterRestart.getVersion = beforeRestart.getVersion := by
  rw [afterRestart, beforeRestart, SyncService.getVersion_updateLocalFacts,
    SyncService.getVersion_incrementLocalVersion, SyncService.getVersion_incrementLocalVersion,
    SyncService.getVersion_updateLocalFacts, SyncService.localNodeId_incrementLocalVersion,
    SyncService.localNodeId_updateLocalFacts]

theorem skips_afterRestart :
    (pairEnvelope afterRestart "n").getVersion ≤ restartReader.getVersion := by
  rw [restartReader, SyncService.perform_processIncomingEnvelope,
    SyncService.getVersion_of_merges merges_beforeRestart, pairEnvelope, pairEnvelope,
    SyncService.getVersion_signedEnvelope, SyncService.getVersion_signedEnvelope,
    getVersion_afterRestart]
  exact le_sup_right

/-- `b` never learns the fact that `a` published after its restart. -/
theorem facts_restartReader : (restartReader.perform transparentEd25519 .unused
    (.processIncomingEnvelope .epoch pairTrust (pairEnvelope afterRestart "n"))).facts
      = factsOf reportedCapabilities := by
  have hskip : ¬SyncService.Merges transparentEd25519 .unused .epoch pairTrust restartReader
      (pairEnvelope afterRestart "n") := fun h => h.2.2 skips_afterRestart
  have hempty (b : Bool) : ((fresh pairNodes).service b).facts = ∅ := knownFacts_empty
  calc (restartReader.perform transparentEd25519 .unused
        (.processIncomingEnvelope .epoch pairTrust (pairEnvelope afterRestart "n"))).facts
      = restartReader.facts := by
        rw [SyncService.perform_processIncomingEnvelope]
        exact congrArg Replica.facts (SyncService.replica_process_of_not_merges hskip)
    _ = ((fresh pairNodes).service true).facts ∪ (pairEnvelope beforeRestart "m").facts := by
        rw [restartReader, SyncService.perform_processIncomingEnvelope]
        have hjoin := congrArg Replica.facts
          (SyncService.replica_process_of_merges merges_beforeRestart)
        rwa [Replica.receive_of_not_le merges_beforeRestart.2.2] at hjoin
    _ = (pairEnvelope beforeRestart "m").facts := by rw [hempty, Set.empty_union]
    _ = beforeRestart.facts := congrArg Replica.facts (SyncService.replica_signedEnvelope ..)
    _ = factsOf reportedCapabilities := by
        have hpublish := SyncService.facts_updateLocalFacts (s := (fresh pairNodes).service false)
          (some reportedCapabilities) none
        rwa [hempty, Set.empty_union] at hpublish

theorem along_reuseDelivered : Along (step transparentEd25519 .unused)
    (fun net a => net.Allows a ∧ net.Authenticates transparentEd25519 .unused a) (fresh pairNodes)
    reuseDelivered := by
  have hne : true ≠ false := by decide
  have hreuse : Along (step transparentEd25519 .unused)
      (fun net a => net.Allows a ∧ net.Authenticates transparentEd25519 .unused a)
      (fresh pairNodes) reuse := by
    simp only [reuse, along_cons, along_nil]
    refine ⟨⟨trivial, trivial⟩, ⟨trivial, trivial⟩, ⟨?_, trivial⟩, ⟨?_, ?_⟩, ⟨trivial, trivial⟩,
      ⟨trivial, trivial⟩, ⟨trivial, trivial⟩, trivial⟩
    · simp [Allows, step_perform_sent, fresh]
    · rw [step_createSyncEnvelope, step_perform_self, step_perform_self,
        SyncService.perform_updateLocalFacts, SyncService.perform_incrementLocalVersion]
      exact List.mem_cons_self
    · rw [Authenticates, step_createSyncEnvelope_service, step_perform_of_ne hne,
        step_perform_of_ne hne]
      exact accepts_beforeRestart
  rw [reuseDelivered, reuseSent]
  refine along_append.mpr ⟨along_append.mpr ⟨hreuse, ⟨?_, trivial⟩, trivial⟩, ⟨?_, ?_⟩, trivial⟩
  · rw [Allows, sent_reuse]
    simp [pairEnvelope]
  · rw [run_append, run_cons, run_nil, step_createSyncEnvelope, service_reuse_false]
    exact List.mem_cons_self
  · rw [run_append, run_cons, run_nil, Authenticates, step_createSyncEnvelope_service,
      service_reuse_true]
    exact accepts_afterRestart

/-- The envelope that `a` creates after its restart reaches `b`, authenticates, and is skipped. -/
theorem facts_lost_reuseDelivered : Along (step transparentEd25519 .unused)
      (fun net a => net.Allows a ∧ net.Authenticates transparentEd25519 .unused a)
      (fresh pairNodes) reuseDelivered
    ∧ ¬FactsArrive pairNodes transparentEd25519 .unused reuseDelivered := by
  refine ⟨along_reuseDelivered, fun harrive => ?_⟩
  have hdelivered := harrive reuse [] false true .insertion "sync_response" "n" .epoch .epoch
    pairTrust
  have hservice : (run (step transparentEd25519 .unused) (fresh pairNodes) reuseSent).service true
      = restartReader := by
    rw [reuseSent, run_append, run_cons, run_nil, step_createSyncEnvelope_service,
      service_reuse_true]
  rw [← reuseSent, service_reuse_false] at hdelivered
  dsimp only at hdelivered
  rw [hservice, step_perform_self, hservice] at hdelivered
  have hfacts := hdelivered (List.prefix_refl _) accepts_afterRestart
  have hpassed : ("x", "microphone") ∈ passed reuse false :=
    ⟨republishedCapabilities, none, by simp [reuse],
      by simp [factsOf, republishedCapabilities, Dict.getD, Dict.get?]⟩
  have hlost : ("x", "microphone") ∈ factsOf reportedCapabilities :=
    facts_restartReader ▸ hfacts hpassed
  simp [factsOf, reportedCapabilities, Dict.getD, Dict.get?] at hlost

end Net

end Shyam

