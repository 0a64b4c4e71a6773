import Shyam.Proof.WiredRuns

/-!
# Is continuity cross-device?

Nothing compares the target with the device that the work comes from. The policy prefers local
candidates and the local node trusts itself, so the work comes back to its source when its Zarya
offers to continue.
-/

namespace Shyam

open Python Interaction Continuity

namespace Continuity

variable {Snapshot : Type}

/-- Whenever the work is handed over, the target is another device than its source. -/
def CrossDevice (request : ContinuityRequest) (run : Past Snapshot) : Prop :=
  ∀ before portableWork sourceDeviceId id targetUrl answer after session target,
    run = before ++ ⟨.continueWork portableWork sourceDeviceId id targetUrl, answer⟩ :: after →
    (stored before).getLast? = some session → session.target = some target →
    target.nodeId ≠ request.sourceDeviceId

end Continuity

namespace ShyamRuntime

variable {runtime : ShyamRuntime} {codec : RecordCodec} {now : DateTime}
  {request : ContinuityRequest} {errorText : PyValue → PyValue → String}

/-- The first choice is the device that the work comes from. -/
def Returns (runtime : ShyamRuntime) (errorText : PyValue → PyValue → String)
    (request : ContinuityRequest) : Prop :=
  ∃ c made, runtime.FirstChoice request c ∧ c.nodeId = request.sourceDeviceId
    ∧ makeTarget errorText c.toNavigationCandidate = .ok made

theorem exists_not_crossDevice (htrusts : runtime.Trusts codec now request.sourceDeviceId)
    (hvalid : Valid request) (hreturns : runtime.Returns errorText request)
    (continuityId : String) :
    ¬CrossDevice request
      (runtime.continuityRun codec now obligingGateways {} errorText continuityId request) := by
  obtain ⟨c, made, hfirst, hsource, hmade⟩ := hreturns
  rw [← hsource] at htrusts
  obtain ⟨before, answer, after, session, hrun, hlast, htarget⟩ :=
    handsOver_continuityRun errorText continuityId hvalid hfirst htrusts hmade
  intro hcross
  apply hcross before _ _ _ _ answer after session _ hrun hlast htarget
  rw [← hsource]
  exact (makeTarget_nodeId hmade : made.nodeId = c.nodeId)

theorem crossDevice_of_not_returns {gateways : Gateways} {service : ContinuityService}
    {continuityId : String} (h : ¬(Valid request ∧ runtime.Returns errorText request)) :
    CrossDevice request
      (runtime.continuityRun codec now gateways service errorText continuityId request) := by
  intro before portableWork sourceDeviceId id targetUrl answer after session
    target hrun hlast htarget
    hsource
  obtain ⟨hvalid, -⟩ := cleared_of_continueWork hrun
  have hsound :=
    service.requestContinuity_sound (runtime.collaborators codec now gateways) errorText
    continuityId request
  have haimed : Aimed errorText before target := by
    obtain ⟨_, ⟨session', hlast', htarget', haims⟩, -⟩ := hsound before _ after hrun
    obtain rfl : session = session' := Option.some.inj (hlast.symm.trans hlast')
    obtain rfl := Option.some.inj (htarget.symm.trans htarget')
    exact ⟨session, hlast, htarget, haims⟩
  obtain ⟨c, made, verified, hfirst, hmade, rfl⟩ := firstChoice_of_aimed hrun haimed
  apply h
  refine ⟨hvalid, c, made, hfirst, ?_, hmade⟩
  rw [← hsource]
  exact (makeTarget_nodeId hmade : made.nodeId = c.nodeId).symm

/-- **Cross-device continuity.** When the source trusts itself, no run hands the work back to it if
and only if the request is turned down or the policy ranks another node first. -/
theorem continuityRun_crossDevice_iff {self : LocalIdentity}
    (hself : runtime.Trusts codec now self.nodeId) (hsource : request.sourceDeviceId = self.nodeId)
    (errorText : PyValue → PyValue → String) :
    (∀ gateways service continuityId, CrossDevice request
        (runtime.continuityRun codec now gateways service errorText continuityId request))
      ↔ ¬(Valid request ∧ runtime.Returns errorText request) := by
  constructor
  · rintro hcross ⟨hvalid, hreturns⟩
    rw [← hsource] at hself
    exact exists_not_crossDevice hself hvalid hreturns "" (hcross obligingGateways {} "")
  · intro h gateways service continuityId
    exact crossDevice_of_not_returns h

/-! ### The local instance -/

def selfIdentity : LocalIdentity := ⟨"a", "desk", "0.2.0"⟩

def selfFabric : LocalFabric where
  zarya := some (
    { providerId := "zarya.agent", name := "Zarya (Linux)", capabilities := ["zarya.work.continue"]
      availability := .available },
    [{ capabilityId := "zarya.work.continue", name := "Zarya Work Continue",
       availability := .available }])

def selfRuntime : ShyamRuntime where
  ecosystemRegistry :=
    EcosystemDiscoveryService.discoverLocalNode selfIdentity .epoch selfFabric .empty
  trustService := .trusting (PySet.empty.add "a")
  zaryaProvider := { isConnected := true }

variable (codec now) in
theorem trusts_self : selfRuntime.Trusts codec now "a" :=
  ⟨_, TrustService.getRecord_trusting (by simp), rfl⟩

theorem returns_self (errorText : PyValue → PyValue → String) :
    selfRuntime.Returns errorText ContinuityService.draftRequest := by
  have hcandidates : ∃ c, selfRuntime.candidates = [c] ∧ c.nodeId = "a"
      ∧ Navigation.rejection {} c = none
      ∧ ∃ made, makeTarget errorText c.toNavigationCandidate = .ok made :=
    ⟨_, rfl, rfl, rfl, _, rfl⟩
  obtain ⟨c, hcandidates, hnode, heligible, made, hmade⟩ := hcandidates
  exact ⟨c, made, .of_singleton hcandidates heligible, hnode, hmade⟩

theorem continuityRun_crossDevice_self : ¬∀ gateways service continuityId,
    CrossDevice ContinuityService.draftRequest
      (selfRuntime.continuityRun .unused .epoch gateways service
      (fun _ _ => "") continuityId ContinuityService.draftRequest) := by
  have hself : selfRuntime.Trusts .unused .epoch selfIdentity.nodeId := trusts_self .unused .epoch
  intro h
  exact (continuityRun_crossDevice_iff hself rfl _).mp h ⟨draftRequest_valid, returns_self _⟩

/-- The draft is handed over to the desk that it comes from. -/
theorem draft_returns_to_its_source : ¬CrossDevice ContinuityService.draftRequest
    (selfRuntime.continuityRun .unused .epoch obligingGateways {} (fun _ _ => "") "c"
      ContinuityService.draftRequest) :=
  exists_not_crossDevice (trusts_self .unused .epoch) draftRequest_valid (returns_self _) "c"

end ShyamRuntime

end Shyam
