import Shyam.Proof.CapabilityKnowledge

/-!
# Availability under concurrent merges

A merge overlays the envelope's availability on the receiver's, whichever of the two is newer. While
every merge brings the newer value, each service and each envelope reads a node id as the newest
update its version vector has heard of, so the vector determines the availability map. A concurrent
merge that brings the older one leaves two nodes with the same vector and different maps.
-/

namespace Shyam

open Python Gossip Transition

namespace Net

variable {ι : Type} {nodes : Nodes ι} {net : Net nodes} {ed : Ed25519} {codec : RecordCodec}

/-- Every service and every envelope reads each node id as the newest bump it has heard of, and no
bump is numbered above its author's counter. -/
structure Faithful (net : Net nodes) : Prop where
  service : ∀ i n, (net.service i).availability n = latest net.history (net.service i).getVersion n
  sent : ∀ e ∈ net.sent, ∀ n, e.availability n = latest net.history e.getVersion n
  bounded : ∀ w ∈ net.history, ∃ i, w.author = nodes.id i
    ∧ w.count ≤ (net.service i).getVersion (nodes.id i)

theorem faithful_fresh : (fresh nodes).Faithful where
  service _ _ := rfl
  sent _ he := absurd he List.not_mem_nil
  bounded _ hw := absurd hw List.not_mem_nil

theorem bump_service (i : ι) (value : String → Option String) : bump (net.service i) value
    = ⟨nodes.id i, (net.service i).getVersion (nodes.id i) + 1, value⟩ := by
  rw [bump, net.named]

section Step

variable [DecidableEq ι] {i : ι} {s : SyncService}

theorem Faithful.put (h : net.Faithful) (hs : s.localNodeId = nodes.id i)
    (hle : (net.service i).getVersion ≤ s.getVersion)
    (hread : ∀ n, s.availability n = latest net.history s.getVersion n) :
    (net.put i s hs).Faithful where
  service j n := by
    by_cases hj : j = i
    · subst hj
      rw [put_service_self]
      exact hread n
    · rw [put_service_of_ne net hj]
      exact h.service j n
  sent := h.sent
  bounded w hw := by
    obtain ⟨j, hauthor, hcount⟩ := h.bounded w hw
    refine ⟨j, hauthor, ?_⟩
    by_cases hj : j = i
    · subst hj
      rw [put_service_self]
      exact hcount.trans (hle _)
    · rwa [put_service_of_ne net hj]

omit [DecidableEq ι] in
/-- Before its author's counter moves, a bump's number is one that no vector covers. -/
theorem latest_bump_of_snapshot (hc : net.Consistent) {r : Replica String Fact}
    (hr : net.system.Snapshot r) (value : String → Option String) (n : String) :
    latest (bump (net.service i) value :: net.history) r.vec n = latest net.history r.vec n := by
  rw [bump_service]
  exact latest_cons_of_lt (Int.lt_add_one_of_le (hc.capped.le_own r hr i))

theorem latest_bump_self (h : net.Faithful) (value : String → Option String) (n : String)
    (hvec : s.getVersion = Function.update (net.service i).getVersion (nodes.id i)
      ((net.service i).getVersion (nodes.id i) + 1)) :
    latest (bump (net.service i) value :: net.history) s.getVersion n
      = (value n).or (latest net.history (net.service i).getVersion n) := by
  have hown : s.getVersion (nodes.id i) = (net.service i).getVersion (nodes.id i) + 1 := by
    rw [hvec, Function.update_self]
  rw [bump_service, latest_cons_of_le hown.ge]
  refine congrArg _ (latest_congr fun w hw _ => ?_)
  obtain ⟨j, hauthor, hcount⟩ := h.bounded w hw
  by_cases hj : j = i
  · subst hj
    rw [hauthor, hown]
    omega
  · have hne : w.author ≠ nodes.id i := fun heq => hj (nodes.id_injective (hauthor ▸ heq))
    rw [hvec, Function.update_of_ne hne]

theorem Faithful.bump (h : net.Faithful) (hc : net.Consistent) (hs : s.localNodeId = nodes.id i)
    {value : String → Option String}
    (hvec : s.getVersion = Function.update (net.service i).getVersion (nodes.id i)
      ((net.service i).getVersion (nodes.id i) + 1))
    (hread : ∀ n, s.availability n = (value n).or ((net.service i).availability n)) :
    Faithful { net.put i s hs with history := bump (net.service i) value :: net.history } where
  service j n := by
    by_cases hj : j = i
    · subst hj
      change ((net.put j s hs).service j).availability n
        = latest _ ((net.put j s hs).service j).getVersion n
      rw [put_service_self, latest_bump_self h value n hvec, hread, h.service]
    · change ((net.put i s hs).service j).availability n
        = latest _ ((net.put i s hs).service j).getVersion n
      rw [put_service_of_ne net hj, h.service]
      exact (latest_bump_of_snapshot hc (snapshot_service j) value n).symm
  sent e he n := by
    rw [h.sent e he n]
    exact (latest_bump_of_snapshot hc (snapshot_sent he) value n).symm
  bounded w hw := by
    have hself : ((net.put i s hs).service i).getVersion (nodes.id i)
        = (net.service i).getVersion (nodes.id i) + 1 := by
      rw [put_service_self, hvec, Function.update_self]
    rcases List.mem_cons.mp hw with rfl | hold
    · rw [bump_service]
      exact ⟨i, rfl, hself.ge⟩
    · obtain ⟨j, hauthor, hcount⟩ := h.bounded w hold
      refine ⟨j, hauthor, ?_⟩
      by_cases hj : j = i
      · subst hj
        exact hcount.trans (hself ▸ Int.le.intro 1 rfl)
      · change w.count ≤ ((net.put i s hs).service j).getVersion (nodes.id j)
        rwa [put_service_of_ne net hj]

/-- Where the envelope of a merge says something else than the receiver about a node id, the newest
update of that id that either has heard of is one the envelope has heard of. It can fail only when
the vectors are concurrent. -/
def MergesNewest (ed : Ed25519) (codec : RecordCodec) (net : Net nodes) : Action ι → Prop
  | .perform i (.processIncomingEnvelope now trust e) =>
      SyncService.Merges ed codec now trust (net.service i) e →
      compareVersions (net.service i).versionMap e.versionMap = .concurrent →
      ∀ n v, e.availability n = some v → (net.service i).availability n ≠ some v →
        ¬Unheard (net.service i).getVersion e.getVersion n net.history
  | _ => True

omit [DecidableEq ι] in
/-- A merge that brings the newest values reads the joined vector faithfully. -/
theorem availability_merge_of_newest (h : net.Faithful) {now : DateTime} {trust : TrustService}
    {e : SyncEnvelope} (he : e ∈ net.sent)
    (hmerges : SyncService.Merges ed codec now trust (net.service i) e)
    (hnewest : net.MergesNewest ed codec (.perform i (.processIncomingEnvelope now trust e)))
    (n : String) : (e.availability n).or ((net.service i).availability n)
      = latest net.history ((net.service i).getVersion ⊔ e.getVersion) n := by
  rw [h.sent e he, h.service]
  refine (latest_sup_eq_or fun v hv hne => ?_).symm
  by_cases hbehind : (net.service i).getVersion ≤ e.getVersion
  · exact not_unheard_of_le hbehind
  · rw [← h.sent e he] at hv
    rw [← h.service] at hne
    exact hnewest hmerges (compareVersions_eq_concurrent_iff.mpr ⟨hmerges.2.2, hbehind⟩) n v hv hne

theorem Faithful.step (h : net.Faithful) (hc : net.Consistent) {a : Action ι}
    (hadmits : net.Admits a) (hnewest : net.MergesNewest ed codec a) :
    (net.step ed codec a).Faithful := by
  cases a with
  | perform i op =>
      cases op with
      | updateLocalFacts capabilities availability =>
          refine h.bump hc
            ((SyncService.localNodeId_updateLocalFacts ..).trans (net.named i)) ?_
            (SyncService.availability_updateLocalFacts capabilities availability)
          rw [← net.named i]
          exact SyncService.getVersion_updateLocalFacts ..
      | incrementLocalVersion =>
          refine h.bump hc
            ((SyncService.localNodeId_incrementLocalVersion _).trans (net.named i)) ?_ fun n => rfl
          rw [← net.named i]
          exact SyncService.getVersion_incrementLocalVersion
      | processIncomingEnvelope now trust e =>
          refine h.put ((SyncService.localNodeId_perform _).trans (net.named i))
            (SyncService.getVersion_le_perform _) fun n => ?_
          change ((net.service i).processIncomingEnvelope ed codec now
            trust e).service.availability n = latest net.history
              ((net.service i).processIncomingEnvelope ed codec now trust e).service.getVersion n
          by_cases hmerges : SyncService.Merges ed codec now trust (net.service i) e
          · rw [SyncService.availability_of_merges hmerges,
              SyncService.getVersion_of_merges hmerges]
            exact availability_merge_of_newest h hadmits.1 hmerges hnewest n
          · obtain ⟨hversions, -, havailability⟩ := SyncService.process_of_not_merges hmerges
            rw [SyncService.availability, SyncService.getVersion, hversions, havailability]
            exact h.service i n
  | createSyncEnvelope i order messageType messageId timestamp =>
      rw [step_createSyncEnvelope]
      refine ⟨h.service, fun e he n => ?_, h.bounded⟩
      rcases List.mem_cons.mp he with rfl | hold
      · exact h.service i n
      · exact h.sent e hold n
  | restart i => exact hadmits.2.elim
  | recover i now requestId =>
      refine h.bump hc
        ((SyncService.localNodeId_incrementLocalVersion _).trans (net.named i)) ?_ fun n => rfl
      rw [← net.named i]
      exact SyncService.getVersion_incrementLocalVersion

/-- **Convergence of availability.** In every run without restarts whose merges bring the newest
values, nodes with equal version vectors hold the same availability map. -/
theorem availability_converges {actions : List (Action ι)}
    (hrun : Along (step ed codec) (fun net a => net.Admits a ∧ net.MergesNewest ed codec a)
      (fresh nodes) actions) :
    let net := run (step ed codec) (fresh nodes) actions
    ∀ i j, (net.service i).getVersion = (net.service j).getVersion →
      (net.service i).availability = (net.service j).availability := by
  obtain ⟨-, h⟩ := hrun.invariant (I := fun net => net.Consistent ∧ net.Faithful)
    (fun _ _ hinv hstep => ⟨hinv.1.step hstep.1, hinv.2.step hinv.1 hstep.1 hstep.2⟩)
    ⟨consistent_fresh, faithful_fresh⟩
  intro net i j hvec
  funext n
  rw [h.service i n, h.service j n, hvec]

end Step

theorem availability_converges_singleUpdate :
    let net := run (step transparentEd25519 .unused) (fresh pairNodes) singleUpdate
    (net.service false).getVersion = (net.service true).getVersion
      ∧ (net.service false).availability = (net.service true).availability := by
  intro net
  have hne : true ≠ false := by decide
  have hbehind : ((fresh pairNodes).service true).getVersion
      ≤ (pairEnvelope updatedPair "m").getVersion := by
    have hzero (i : Bool) : ((fresh pairNodes).service i).getVersion = 0 :=
      congrArg Replica.vec (SyncService.replica_new ..)
    have hle : ((fresh pairNodes).service false).getVersion
        ≤ (((fresh pairNodes).service false).perform transparentEd25519 .unused (.updateLocalFacts
          (some reportedCapabilities) (some (reportedAvailability "x" "up")))).getVersion :=
      SyncService.getVersion_le_perform _
    rw [hzero true, ← hzero false]
    exact hle
  have hnewest : Along (step transparentEd25519 .unused)
      (fun net a => net.Admits a ∧ net.MergesNewest transparentEd25519 .unused a)
      (fresh pairNodes) singleUpdate := by
    have hadmits := admits_singleUpdate
    simp only [singleUpdate, along_cons, along_nil, step_createSyncEnvelope] at hadmits ⊢
    obtain ⟨hupdate, hcreate, hdeliver, -⟩ := hadmits
    refine ⟨⟨hupdate, trivial⟩, ⟨hcreate, trivial⟩, ⟨hdeliver, fun _ hconcurrent => ?_⟩, trivial⟩
    rw [step_perform_of_ne hne] at hconcurrent
    exact absurd hbehind (compareVersions_eq_concurrent_iff.mp hconcurrent).2
  have hmerges : SyncService.Merges transparentEd25519 .unused .epoch pairTrust
      ((fresh pairNodes).service true) (pairEnvelope updatedPair "m") :=
    ⟨accepts_pairEnvelope _ _ _ (by decide) (by decide) (by decide), List.not_mem_nil,
      fun hle => absurd (hle "a") (by decide)⟩
  have hvec : (net.service false).getVersion = (net.service true).getVersion := by
    simp only [net, singleUpdate, run_cons, run_nil, step_createSyncEnvelope, step_perform_self,
      step_perform_of_ne hne, step_perform_of_ne hne.symm, SyncService.perform_updateLocalFacts,
      SyncService.perform_processIncomingEnvelope]
    rw [SyncService.getVersion_of_merges hmerges]
    exact (sup_eq_right.mpr hbehind).symm
  exact ⟨hvec, availability_converges hnewest false true hvec⟩

/-! ### Crossing envelopes -/

/-- Both nodes of the pair update `x` at the same time, then each receives what the other
created. -/
def crossing : List (Action Bool) :=
  let a :=
    ((fresh pairNodes).service false).updateLocalFacts none (some (reportedAvailability "x" "up"))
  let b :=
    ((fresh pairNodes).service true).updateLocalFacts none (some (reportedAvailability "x" "down"))
  [.perform false (.updateLocalFacts none (some (reportedAvailability "x" "up"))),
    .perform true (.updateLocalFacts none (some (reportedAvailability "x" "down"))),
    .createSyncEnvelope false .insertion "sync_response" "m" .epoch,
    .createSyncEnvelope true .insertion "sync_response" "n" .epoch,
    .perform true (.processIncomingEnvelope .epoch pairTrust (pairEnvelope a "m")),
    .perform false (.processIncomingEnvelope .epoch pairTrust (pairEnvelope b "n"))]

theorem availability_diverges_crossing :
    Along (step transparentEd25519 .unused)
        (fun net a => net.Admits a ∧ net.Authenticates transparentEd25519 .unused a)
        (fresh pairNodes) crossing
      ∧ let net := run (step transparentEd25519 .unused) (fresh pairNodes) crossing
        (net.service false).getVersion = (net.service true).getVersion
          ∧ (net.service false).getNodeAvailability "x" = some "down"
          ∧ (net.service true).getNodeAvailability "x" = some "up" := by
  constructor
  · simp only [crossing, along_cons, along_nil, step_createSyncEnvelope]
    refine ⟨⟨⟨trivial, trivial⟩, trivial⟩, ⟨⟨trivial, trivial⟩, trivial⟩,
      ⟨⟨by simp [Allows, step, put, fresh], trivial⟩, trivial⟩, ⟨⟨?_, trivial⟩, trivial⟩,
      ⟨⟨List.mem_cons_of_mem _ List.mem_cons_self, trivial⟩,
        accepts_pairEnvelope _ _ _ (by decide) (by decide) (by decide)⟩,
      ⟨⟨List.mem_cons_self, trivial⟩,
        accepts_pairEnvelope _ _ _ (by decide) (by decide) (by decide)⟩, trivial⟩
    simp [Allows, put, fresh, step]
  · let a := ((fresh pairNodes).service false).updateLocalFacts none
      (some (reportedAvailability "x" "up"))
    let b := ((fresh pairNodes).service true).updateLocalFacts none
      (some (reportedAvailability "x" "down"))
    have ha : SyncService.Merges transparentEd25519 .unused .epoch pairTrust a
        (pairEnvelope b "n") :=
      ⟨accepts_pairEnvelope _ _ _ (by decide) (by decide) (by decide), List.not_mem_nil,
        fun hle => absurd (hle "b") (by decide)⟩
    have hb : SyncService.Merges transparentEd25519 .unused .epoch pairTrust b
        (pairEnvelope a "m") :=
      ⟨accepts_pairEnvelope _ _ _ (by decide) (by decide) (by decide), List.not_mem_nil,
        fun hle => absurd (hle "a") (by decide)⟩
    have hne : false ≠ true := by decide
    simp only [crossing, run_cons, run_nil, step_createSyncEnvelope, step_perform_self,
      step_perform_of_ne hne, step_perform_of_ne hne.symm, SyncService.perform_updateLocalFacts,
      SyncService.perform_processIncomingEnvelope]
    rw [SyncService.getVersion_of_merges ha, SyncService.getVersion_of_merges hb,
      SyncService.getNodeAvailability_eq, SyncService.getNodeAvailability_eq,
      SyncService.availability_of_merges ha, SyncService.availability_of_merges hb]
    have hup : (pairEnvelope a "m").availability "x" = some "up" := rfl
    have hdown : (pairEnvelope b "n").availability "x" = some "down" := rfl
    rw [hup, hdown, Option.some_or, Option.some_or]
    exact ⟨sup_comm _ _, rfl, rfl⟩

end Net

end Shyam
