import Shyam.Core.Runtime
import Shyam.Proof.ContinuityReports

/-!
# Runs of the wired service

With the navigator and the trust service of the runtime, the target of a session is one candidate of
the registry, the one that the policy ranks first, and nothing leaves for it before it was found
trusted. In the other direction, gateways that oblige let every such candidate be handed the work.
-/

namespace Shyam

open Python Interaction Continuity

/-! ### The candidate ranked first -/

namespace Navigation

variable {registry : EcosystemRegistry} {localNodeId capability : String} {c c' : Candidate}
  {constraints : NavigationConstraints}

/-- A node has one provider under an id, so the ids determine the metadata. -/
theorem toNavigationCandidate_eq
    (h : c ∈ discoverCandidates (registry.createSnapshot localNodeId) capability)
    (h' : c' ∈ discoverCandidates (registry.createSnapshot localNodeId) capability)
    (hnode : c.nodeId = c'.nodeId) (hprovider : c.providerId = c'.providerId) :
    c.toNavigationCandidate = c'.toNavigationCandidate := by
  obtain ⟨node, provider, cap, hget, hgetProvider, -, -, rfl⟩ := mem_discoverCandidates.mp h
  obtain ⟨node', provider', cap', hget', hgetProvider', -, -, rfl⟩ := mem_discoverCandidates.mp h'
  change node.nodeId = node'.nodeId at hnode
  change provider.providerId = provider'.providerId at hprovider
  obtain rfl : node = node' := by
    rw [hnode, hget', Option.some.injEq] at hget
    exact hget.symm
  obtain rfl : provider = provider' := by
    rw [hprovider, hgetProvider', Option.some.injEq] at hgetProvider
    exact hgetProvider.symm
  rfl

theorem RankedFirst.mem {candidates : List Candidate} (h : RankedFirst constraints candidates c) :
    c ∈ candidates := (mem_eligible.mp h.1).1

/-- Two candidates that are ranked first are one target. -/
theorem RankedFirst.unique
    (h : RankedFirst constraints
      (discoverCandidates (registry.createSnapshot localNodeId) capability) c)
    (h' : RankedFirst constraints
      (discoverCandidates (registry.createSnapshot localNodeId) capability)
      c') : c.toNavigationCandidate = c'.toNavigationCandidate := by
  have hkey := le_antisymm (h.2 c' h'.1) (h'.2 c h.1)
  obtain ⟨hnode, hprovider⟩ := ids_eq_of_rankingKey_eq hkey
  exact toNavigationCandidate_eq h.mem h'.mem hnode hprovider

theorem navigate_selected_iff {candidate : NavigationCandidate} :
    (navigate ⟨capability, constraints⟩
        (registry.createSnapshot localNodeId)).toNavigationResult.selected = some candidate
      ↔ ∃ c, RankedFirst constraints
          (discoverCandidates (registry.createSnapshot localNodeId) capability) c
        ∧ c.toNavigationCandidate = candidate := by
  rw [Evaluation.toNavigationResult, Option.map_eq_some_iff]
  constructor
  · rintro ⟨c, hselected, rfl⟩
    exact ⟨c, rankedFirst_of_selected hselected, rfl⟩
  · rintro ⟨c, hfirst, rfl⟩
    obtain ⟨c', hselected⟩ := exists_selected capability hfirst.1
    exact ⟨c', hselected, (rankedFirst_of_selected hselected).unique hfirst⟩

end Navigation

open Navigation (RankedFirst navigate_selected_iff)

namespace Continuity

theorem makeTarget_nodeId {errorText : PyValue → PyValue → String} {candidate : NavigationCandidate}
    {target : ContinuityTarget} (h : makeTarget errorText candidate = .ok target) :
    target.nodeId = candidate.nodeId := by
  rw [makeTarget] at h
  split at h
  · cases h
    rfl
  · cases h

end Continuity

namespace ShyamRuntime

variable {runtime : ShyamRuntime} {codec : RecordCodec} {now : DateTime} {gateways : Gateways}
  {service : ContinuityService} {errorText : PyValue → PyValue → String} {continuityId : String}
  {request : ContinuityRequest} {before after : Past EcosystemSnapshot} {c : Navigation.Candidate}
  {target : ContinuityTarget} {candidate : NavigationCandidate}

/-- The candidate that the work would go to. -/
def FirstChoice (runtime : ShyamRuntime) (request : ContinuityRequest) (c : Navigation.Candidate) :
    Prop := RankedFirst request.targetConstraints runtime.candidates c

theorem FirstChoice.unique {c' : Navigation.Candidate} (h : runtime.FirstChoice request c)
    (h' : runtime.FirstChoice request c') : c.toNavigationCandidate = c'.toNavigationCandidate :=
  RankedFirst.unique h h'

theorem FirstChoice.mem (h : runtime.FirstChoice request c) : c ∈ runtime.candidates :=
  RankedFirst.mem h

theorem FirstChoice.of_singleton (hcandidates : runtime.candidates = [c])
    (heligible : Navigation.rejection request.targetConstraints c = none) :
    runtime.FirstChoice request c := by
  rw [FirstChoice, hcandidates]
  refine ⟨Navigation.mem_eligible.mpr ⟨List.mem_singleton_self c, heligible⟩, fun c' h => ?_⟩
  rw [List.mem_singleton.mp (Navigation.mem_eligible.mp h).1]

variable (runtime) in
theorem continuityRun_answered : Program.Answered
    (fun past => (service.after past).answer (runtime.collaborators codec now gateways past))
    (runtime.continuityRun codec now gateways service errorText continuityId request) :=
  Program.answered_run (Program.answered_nil _) _

theorem firstChoice_of_selected
    (hrun : runtime.continuityRun codec now gateways service errorText continuityId request
      = before ++ after) (h : Selected before candidate) :
    ∃ c, runtime.FirstChoice request c ∧ c.toNavigationCandidate = candidate := by
  obtain ⟨navRequest, snapshot, reason, hmem⟩ := h
  obtain ⟨past, later, rfl⟩ := List.append_of_mem hmem
  rw [List.append_assoc] at hrun
  have hanswered := continuityRun_answered runtime past _ (later ++ after) hrun
  have hsound :=
    service.requestContinuity_sound (runtime.collaborators codec now gateways) errorText
    continuityId request
  obtain ⟨hrequest, hcreated⟩ := hsound past _ (later ++ after) hrun
  obtain ⟨first, rest, rfl⟩ := List.append_of_mem hcreated
  rw [List.append_assoc] at hrun
  have hsnapshot := continuityRun_answered runtime first _ _ hrun
  cases hsnapshot
  have hselected : (Navigation.navigate ⟨"zarya.work.continue", request.targetConstraints⟩
      (runtime.ecosystemRegistry.createSnapshot "")).toNavigationResult
        = ⟨some candidate, reason⟩ := by
    rw [← hrequest]
    exact (Except.ok.inj hanswered).symm
  exact navigate_selected_iff.mp (congrArg NavigationResult.selected hselected)

theorem firstChoice_of_aimed
    (hrun : runtime.continuityRun codec now gateways service errorText continuityId request
      = before ++ after) (h : Aimed errorText before target) :
    ∃ c made verified, runtime.FirstChoice request c
      ∧ makeTarget errorText c.toNavigationCandidate = .ok made
      ∧ target = { made with trustVerified := verified } := by
  obtain ⟨session, -, -, candidate, made, verified, hselected, hmade, htarget⟩ := h
  obtain ⟨c, hfirst, rfl⟩ := firstChoice_of_selected hrun hselected
  exact ⟨c, made, verified, hfirst, hmade, htarget⟩

theorem trusts_of_cleared {peerId : String} {done : List (String × FluxTransferResponse)}
    (hrun : runtime.continuityRun codec now gateways service errorText continuityId request
      = before ++ after) (h : Cleared before candidate peerId done)
    (hfirst : runtime.FirstChoice request c) : runtime.Trusts codec now c.nodeId := by
  obtain ⟨c', hfirst', hcandidate⟩ := firstChoice_of_selected hrun h.selected
  have hnode : c.nodeId = candidate.nodeId := by
    rw [← hcandidate]
    exact congrArg NavigationCandidate.nodeId (hfirst.unique hfirst')
  obtain ⟨trustRecord, hstatus, hcalls⟩ := h.calls
  have hmem : trustCall candidate.nodeId (.ok (some trustRecord)) ∈ before := by
    have hcalled : trustCall candidate.nodeId (.ok (some trustRecord)) ∈ calls before :=
      hcalls ▸ List.mem_cons_self
    exact (List.mem_filter.mp hcalled).1
  obtain ⟨past, later, rfl⟩ := List.append_of_mem hmem
  rw [List.append_assoc] at hrun
  have hanswered := continuityRun_answered runtime past _ _ hrun
  change .ok (some trustRecord) = Except.map some _ at hanswered
  rw [← hnode] at hanswered
  cases hrecord : (runtime.trustService.getRecord codec now c.nodeId).1 with
  | error exc =>
      rw [hrecord] at hanswered
      cases hanswered
  | ok record =>
      rw [hrecord] at hanswered
      cases hanswered
      exact ⟨trustRecord, hrecord, hstatus⟩

/-- The work leaves for a trusted first choice, after a valid request. -/
theorem cleared_of_continueWork {portableWork : Dict PyValue} {sourceDeviceId id : String}
    {targetUrl : Option String} {answer : Except Exc ContinuationResponse}
    (hrun : runtime.continuityRun codec now gateways service errorText continuityId request
      = before ++ ⟨.continueWork portableWork sourceDeviceId id targetUrl, answer⟩ :: after) :
    Valid request ∧ ∃ candidate peerId done, Cleared before candidate peerId done := by
  have hadmitted := service.requestContinuity_admitted (runtime.collaborators codec now gateways)
    errorText continuityId request
  obtain ⟨-, hvalid, -, candidate, peerId, done, hcleared, -⟩ := hadmitted before _ after hrun
  exact ⟨hvalid, candidate, peerId, done, hcleared⟩

def obligingGateways : Gateways where
  transferFile _ _ _ := .ok ⟨"t", .completed⟩
  post _ _ _ _ _ := .ok ⟨"o", .verifiedSuccess, true, true, ""⟩

theorem handsOver_continuityRun {made : ContinuityTarget} (errorText : PyValue → PyValue → String)
    (continuityId : String) (hrequest : Valid request) (hfirst : runtime.FirstChoice request c)
    (htrusts : runtime.Trusts codec now c.nodeId)
    (hmade : makeTarget errorText c.toNavigationCandidate = .ok made) :
    ∃ before answer after session,
      runtime.continuityRun codec now obligingGateways {} errorText continuityId request
        = before ++ ⟨.continueWork request.portableWork request.sourceDeviceId continuityId
          (orElse made.zaryaUrl none), answer⟩ :: after
      ∧ (stored before).getLast? = some session
      ∧ session.target = some { made with trustVerified := true } := by
  have hselected := navigate_selected_iff.mpr ⟨c, hfirst, rfl⟩
  obtain ⟨record, hrecord, hstatus⟩ := htrusts
  have hobliges : Obliges (fun past => (ContinuityService.after {} past).answer
      (runtime.collaborators codec now obligingGateways past)) request c.toNavigationCandidate := by
    refine ⟨⟨runtime.ecosystemRegistry.createSnapshot "", fun _ => rfl, fun _ => ?_⟩, fun _ => ?_,
      fun _ _ _ => ⟨_, rfl, by simp, by simp⟩⟩
    · refine ⟨(Navigation.navigate ⟨"zarya.work.continue", request.targetConstraints⟩
        (runtime.ecosystemRegistry.createSnapshot "")).toNavigationResult.reason, ?_⟩
      rw [← hselected]
      rfl
    · refine ⟨record, ?_, hstatus⟩
      change Except.map some _ = _
      rw [hrecord]
      rfl
  obtain ⟨before, answer, after, session, hrun, hhand⟩ :=
    handsOver_requestContinuity hobliges hrequest hmade rfl
  exact ⟨before, answer, after, session, hrun, hhand.last, hhand.target_eq⟩

theorem selectsNode_of_firstChoice {made : ContinuityTarget}
    (errorText : PyValue → PyValue → String) (continuityId : String) (hrequest : Valid request)
    (hfirst : runtime.FirstChoice request c) (htrusts : runtime.Trusts codec now c.nodeId)
    (hmade : makeTarget errorText c.toNavigationCandidate = .ok made) :
    ∃ candidate, Selected
        (runtime.continuityRun codec now obligingGateways {} errorText continuityId request)
          candidate
      ∧ candidate.nodeId = c.nodeId := by
  obtain ⟨before, answer, after, session, hrun, -, -⟩ :=
    handsOver_continuityRun errorText continuityId hrequest hfirst htrusts hmade
  obtain ⟨-, candidate, peerId, done, hcleared⟩ := cleared_of_continueWork hrun
  obtain ⟨c', hfirst', rfl⟩ := firstChoice_of_selected hrun hcleared.selected
  refine ⟨_, hrun ▸ hcleared.selected.append _, ?_⟩
  exact congrArg NavigationCandidate.nodeId (hfirst'.unique hfirst)

theorem draftRequest_valid : Valid ContinuityService.draftRequest := by
  refine ⟨?_, ?_, ?_⟩ <;> decide

end ShyamRuntime

end Shyam
