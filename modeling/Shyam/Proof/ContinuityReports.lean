import Shyam.Continuity.World
import Shyam.Proof.ObligedRun

/-!
# What a stored session reports

The target of a stored session is that of a selected candidate. Its result repeats a response of
Zarya's, or it says nothing of Zarya, and then it claims a success only when there was nothing to
transfer. Both carry over from stage to stage, since what has happened only grows.
-/

namespace Shyam

open Python Interaction

namespace Continuity

variable {Snapshot : Type}

def Responded (past : Past Snapshot) (resp : ContinuationResponse) : Prop :=
  ∃ portableWork sourceDeviceId continuityId targetUrl,
    (⟨.continueWork portableWork sourceDeviceId continuityId targetUrl, .ok resp⟩ :
      Event (Answer Snapshot)) ∈ past

/-- The fields that repeat what Zarya said are at their defaults. -/
def Silent (result : ContinuityResult) : Prop :=
  result.zaryaOutcome = none ∧ result.reconstructionCompleted = false
    ∧ result.executionCompleted = false

def Repeats (result : ContinuityResult) (resp : ContinuationResponse) : Prop :=
  result.zaryaOutcome = some resp.outcome.value
    ∧ result.reconstructionCompleted = resp.reconstructionCompleted
    ∧ result.executionCompleted = resp.executionCompleted

variable (errorText : PyValue → PyValue → String) (request : ContinuityRequest)

def Reports (past : Past Snapshot) (result : ContinuityResult) : Prop :=
  (∃ resp, Responded past resp ∧ Repeats result resp
      ∧ (result.outcome = .success → resp.outcome = .verifiedSuccess))
    ∨ Silent result ∧ (result.outcome = .success →
        request.artifactPaths = [] ∧ ∃ candidate, Selected past candidate)

/-- The target that is made for a selected candidate, verified or not. -/
def Aims (past : Past Snapshot) (target : ContinuityTarget) : Prop :=
  ∃ candidate made verified, Selected past candidate ∧ makeTarget errorText candidate = .ok made
    ∧ target = { made with trustVerified := verified }

structure Carries (past : Past Snapshot) (session : ContinuitySession) : Prop where
  request_eq : session.request = request
  target : ∀ target, session.target = some target → Aims errorText past target
  result : ∀ result, session.result = some result → Reports request past result

/-- The target of the session stored last. -/
def Aimed (past : Past Snapshot) (target : ContinuityTarget) : Prop :=
  ∃ session, (stored past).getLast? = some session ∧ session.target = some target
    ∧ Aims errorText past target

def Sound (past : Past Snapshot) : Op Snapshot → Prop
  | .enter session | .store session => Carries errorText request past session
  | .transfer peerId _ => ∃ target, Aimed errorText past target ∧ peerId = peerOf target
  | .continueWork _ _ _ targetUrl =>
      ∃ target, Aimed errorText past target ∧ targetUrl = orElse target.zaryaUrl none
  | .navigate navRequest snapshot =>
      navRequest = ⟨"zarya.work.continue", request.targetConstraints⟩
        ∧ (⟨.createSnapshot, .ok snapshot⟩ : Event (Answer Snapshot)) ∈ past
  | _ => True

/-- A stage leaves the session that is stored, or raises and leaves the session it started with. -/
def Leaves (session : ContinuitySession) (past : Past Snapshot) :
    Except Exc ContinuitySession → Prop
  | .ok session' => Carries errorText request past session'
      ∧ (stored past).getLast? = some session'
  | .error _ => Carries errorText request past session

variable {errorText request} {past : Past Snapshot} {session session' : ContinuitySession}
  {result : ContinuityResult} {target : ContinuityTarget} {resp : ContinuationResponse}

/-! ### What grows -/

theorem Responded.append (h : Responded past resp) (later : Past Snapshot) :
    Responded (past ++ later) resp := by
  obtain ⟨portableWork, sourceDeviceId, continuityId, targetUrl, hmem⟩ := h
  exact ⟨portableWork, sourceDeviceId, continuityId, targetUrl, List.mem_append_left later hmem⟩

theorem Responded.verified (h : Responded past resp) (houtcome : resp.outcome = .verifiedSuccess) :
    VerifiedSuccess past := by
  obtain ⟨portableWork, sourceDeviceId, continuityId, targetUrl, hmem⟩ := h
  exact ⟨portableWork, sourceDeviceId, continuityId, targetUrl, resp, hmem, houtcome⟩

theorem Aims.append (h : Aims errorText past target) (later : Past Snapshot) :
    Aims errorText (past ++ later) target := by
  obtain ⟨candidate, made, verified, hselected, hmade, htarget⟩ := h
  exact ⟨candidate, made, verified, hselected.append later, hmade, htarget⟩

theorem Reports.append (h : Reports request past result) (later : Past Snapshot) :
    Reports request (past ++ later) result := by
  obtain ⟨resp, hresponded, hrepeats, hsuccess⟩ | ⟨hsilent, hsuccess⟩ := h
  · exact Or.inl ⟨resp, hresponded.append later, hrepeats, hsuccess⟩
  · refine Or.inr ⟨hsilent, fun houtcome => ?_⟩
    obtain ⟨hpaths, candidate, hselected⟩ := hsuccess houtcome
    exact ⟨hpaths, candidate, hselected.append later⟩

theorem Carries.append (h : Carries errorText request past session) (later : Past Snapshot) :
    Carries errorText request (past ++ later) session where
  request_eq := h.request_eq
  target target htarget := (h.target target htarget).append later
  result result hresult := (h.result result hresult).append later

/-! ### Storing a session -/

theorem reports_of_silent (hsilent : Silent result) (houtcome : result.outcome ≠ .success) :
    Reports request past result := Or.inr ⟨hsilent, fun h => absurd h houtcome⟩

theorem meets_store_sound (h : Carries errorText request past session') :
    Program.Meets (Sound errorText request) (Leaves errorText request session) past
      (rebuild session') :=
  ⟨h, fun _ => ⟨h.append _, by rw [stored_store, List.getLast?_concat]⟩⟩

theorem meets_transition_sound {targetState : ContinuityState} {new : Option ContinuityResult}
    (h : Carries errorText request past session)
    (hresult : ∀ result, new = some result → Reports request past result) :
    Program.Meets (Sound errorText request) (Leaves errorText request session) past
      (transition session targetState new) := by
  rw [transition]
  split_ifs
  · apply meets_store_sound
    refine ⟨h.request_eq, h.target, fun result hsome => ?_⟩
    cases new with
    | none => exact h.result result hsome
    | some result' => exact hresult result hsome
  · exact h

theorem meets_fail_sound {reason : String} (h : Carries errorText request past session) :
    Program.Meets (Sound errorText request) (Leaves errorText request session) past
      (fail session reason) := by
  apply meets_transition_sound h
  rintro result ⟨rfl⟩
  exact reports_of_silent ⟨rfl, rfl, rfl⟩ (by simp)

/-- A stage whose handler fails the session it started with. -/
theorem meets_guarded {body : Script Snapshot ContinuitySession} {reason : Exc → String}
    (h : Program.Meets (Sound errorText request) (Leaves errorText request session) past body) :
    Program.Meets (Sound errorText request) (Leaves errorText request session) past
      (tryCatch body fun exc => fail session (reason exc)) := by
  apply Program.meets_tryCatch
  apply h.mono
  intro past result hleaves
  cases result with
  | ok session' => exact hleaves
  | error exc => exact meets_fail_sound hleaves

/-! ### The stages -/

theorem meets_validate_sound (h : Carries errorText request past session)
    (hlast : (stored past).getLast? = some session) :
    Program.Meets (Sound errorText request) (Leaves errorText request session) past
      (validate session) := by
  rw [validate]
  split_ifs
  · exact meets_fail_sound h
  · exact meets_fail_sound h
  · apply meets_transition_sound h
    rintro result ⟨rfl⟩
    exact reports_of_silent ⟨rfl, rfl, rfl⟩ (by simp)
  · exact ⟨h, hlast⟩

theorem meets_prepareArtifacts_sound (h : Carries errorText request past session)
    (hlast : (stored past).getLast? = some session) :
    Program.Meets (Sound errorText request) (Leaves errorText request session) past
      (prepareArtifacts session) := ⟨h, hlast⟩

theorem meets_selectTarget_sound (h : Carries errorText request past session) :
    Program.Meets (Sound errorText request) (Leaves errorText request session) past
      (selectTarget errorText session) := by
  rw [selectTarget]
  apply meets_guarded
  apply Program.meets_bind
  refine ⟨trivial, fun answer => ?_⟩
  cases answer with
  | error exc => exact h.append _
  | ok snapshot =>
      apply Program.meets_bind
      refine ⟨⟨by rw [h.request_eq], List.mem_append_right _ List.mem_cons_self⟩, fun answer => ?_⟩
      cases answer with
      | error exc => exact (h.append _).append _
      | ok navResult =>
          obtain ⟨selected, reason⟩ := navResult
          cases selected with
          | none => exact meets_fail_sound ((h.append _).append _)
          | some candidate =>
              apply Program.meets_bind
              cases hmade : makeTarget errorText candidate with
              | error exc => exact (h.append _).append _
              | ok target =>
                  have hafter := (h.append [⟨.createSnapshot, .ok snapshot⟩]).append
                    [⟨.navigate ⟨"zarya.work.continue", session.request.targetConstraints⟩ snapshot,
                      .ok ⟨some candidate, reason⟩⟩]
                  apply meets_store_sound
                  refine ⟨hafter.request_eq, ?_, hafter.result⟩
                  rintro _ ⟨rfl⟩
                  exact ⟨candidate, target, target.trustVerified,
                    ⟨_, snapshot, reason, List.mem_append_right _ List.mem_cons_self⟩, hmade, rfl⟩

theorem meets_verifyTrust_sound (h : Carries errorText request past session) :
    Program.Meets (Sound errorText request) (Leaves errorText request session) past
      (verifyTrust session) := by
  rw [verifyTrust]
  cases htarget : session.target with
  | none => exact meets_fail_sound h
  | some target =>
      apply meets_guarded
      apply Program.meets_bind
      refine ⟨trivial, fun answer => ?_⟩
      have hafter := h.append [⟨.getRecord target.deviceId, answer⟩]
      cases answer with
      | error exc => exact hafter
      | ok found =>
          cases found with
          | none => exact meets_fail_sound hafter
          | some trustRecord =>
              change Program.Meets _ _ _ (ite _ _ (ite _ _ _))
              split_ifs
              · exact meets_fail_sound hafter
              · exact meets_fail_sound hafter
              · apply meets_store_sound
                refine ⟨hafter.request_eq, ?_, hafter.result⟩
                rintro _ ⟨rfl⟩
                obtain ⟨candidate, made, verified, hselected, hmade, rfl⟩ :=
                  hafter.target target htarget
                exact ⟨candidate, made, true, hselected, hmade, rfl⟩

/-- No transfer stores anything, so the target of the loop stays that of the session stored last. -/
theorem meets_transferEach_sound (htarget : session.target = some target) (rest : List String) :
    ∀ (past : Past Snapshot) (last : Option String), Carries errorText request past session →
      (stored past).getLast? = some session →
      Program.Meets (Sound errorText request) (Leaves errorText request session) past
        (transferEach session target last rest) := by
  induction rest with
  | nil =>
      intro past last h _
      exact meets_store_sound ⟨h.request_eq, h.target, h.result⟩
  | cons artifactPath rest ih =>
      intro past last h hlast
      apply Program.meets_bind
      refine ⟨⟨target, ⟨session, hlast, htarget, h.target target htarget⟩, rfl⟩, fun answer => ?_⟩
      have hafter := h.append [⟨.transfer (peerOf target) artifactPath, answer⟩]
      have hsame : (stored (past ++ [⟨.transfer (peerOf target) artifactPath, answer⟩])).getLast?
          = some session := by
        rw [stored_other past rfl, hlast]
      cases answer with
      | error exc => exact hafter
      | ok response =>
          change Program.Meets _ _ _ (ite _ _ _)
          split_ifs
          · exact meets_fail_sound hafter
          · exact ih _ _ hafter hsame

theorem meets_transferArtifacts_sound (h : Carries errorText request past session)
    (hlast : (stored past).getLast? = some session) :
    Program.Meets (Sound errorText request) (Leaves errorText request session) past
      (transferArtifacts session) := by
  rw [transferArtifacts]
  cases htarget : session.target with
  | none => exact meets_fail_sound h
  | some target =>
      change Program.Meets _ _ _ (ite _ _ _)
      split_ifs with hpaths
      · apply meets_store_sound
        refine ⟨h.request_eq, fun _ hsome => h.target _ (htarget ▸ hsome), ?_⟩
        rintro _ ⟨rfl⟩
        obtain ⟨candidate, _, _, hselected, -⟩ := h.target target htarget
        exact Or.inr ⟨⟨rfl, rfl, rfl⟩, fun _ => ⟨h.request_eq ▸ hpaths, candidate, hselected⟩⟩
      · exact meets_guarded (meets_transferEach_sound htarget _ past none h hlast)

theorem meets_continueOnTarget_sound (h : Carries errorText request past session)
    (hlast : (stored past).getLast? = some session) :
    Program.Meets (Sound errorText request) (Leaves errorText request session) past
      (continueOnTarget session) := by
  rw [continueOnTarget]
  cases htarget : session.target with
  | none => exact meets_fail_sound h
  | some target =>
      apply meets_guarded
      apply Program.meets_bind
      refine ⟨⟨target, ⟨session, hlast, htarget, h.target target htarget⟩, rfl⟩, fun answer => ?_⟩
      have hafter := h.append [⟨.continueWork session.request.portableWork
        session.request.sourceDeviceId session.continuityId (orElse target.zaryaUrl none), answer⟩]
      cases answer with
      | error exc => exact hafter
      | ok resp =>
          apply meets_store_sound
          refine ⟨hafter.request_eq, fun _ hsome => hafter.target _ (htarget ▸ hsome), ?_⟩
          rintro _ ⟨rfl⟩
          refine Or.inl ⟨resp, ⟨_, _, _, _, List.mem_append_right _ List.mem_cons_self⟩,
            ⟨rfl, rfl, rfl⟩, fun hsuccess => ?_⟩
          rw [continuationResult] at hsuccess
          cases houtcome : resp.outcome with
          | verifiedSuccess => rfl
          | verifiedFailure | unknown => simp [houtcome, mapZaryaOutcome] at hsuccess

theorem meets_verifyResult_sound (h : Carries errorText request past session) :
    Program.Meets (Sound errorText request) (Leaves errorText request session) past
      (verifyResult session) := by
  rw [verifyResult]
  cases hresult : session.result with
  | none =>
      apply meets_transition_sound h
      rintro result ⟨rfl⟩
      exact reports_of_silent ⟨rfl, rfl, rfl⟩ (by simp)
  | some result =>
      have hfinal : ∀ final, some { result with outcome := finalOutcome result.zaryaOutcome }
          = some final → Reports request past final := by
        rintro _ ⟨rfl⟩
        obtain ⟨resp, hresponded, hrepeats, -⟩ | ⟨hsilent, -⟩ := h.result result hresult
        · refine Or.inl ⟨resp, hresponded, hrepeats, fun hsuccess => ?_⟩
          rw [hrepeats.1, finalOutcome_value] at hsuccess
          cases houtcome : resp.outcome with
          | verifiedSuccess => rfl
          | verifiedFailure | unknown => simp [houtcome, mapZaryaOutcome] at hsuccess
        · have hquiet : Silent { result with outcome := finalOutcome result.zaryaOutcome } :=
            hsilent
          apply reports_of_silent hquiet
          rw [hsilent.1]
          simp [finalOutcome]
      change Program.Meets _ _ _ (ite _ _ (ite _ _ _))
      split_ifs
      · exact meets_transition_sound h hfinal
      · exact meets_transition_sound h hfinal
      · exact meets_transition_sound h hfinal

/-! ### The whole run -/

/-- A stage of the pipeline, and the stages after it. -/
theorem meets_next_sound {targetState : ContinuityState}
    {stage rest : ContinuitySession → Script Snapshot ContinuitySession}
    (h : Carries errorText request past session)
    (hstage : ∀ past session, Carries errorText request past session →
      (stored past).getLast? = some session →
      Program.Meets (Sound errorText request) (Leaves errorText request session) past
        (stage session))
    (hrest : ∀ past session, Carries errorText request past session →
      Program.Meets (Sound errorText request) (fun _ _ => True) past (rest session)) :
    Program.Meets (Sound errorText request) (fun _ _ => True) past (do
      let session ← transition session targetState none
      let session ← stage session
      unlessTerminal session rest) := by
  apply Program.meets_bind
  apply (meets_transition_sound h fun _ hnone => by cases hnone).mono
  intro past result hmoved
  cases result with
  | error exc => trivial
  | ok session =>
      apply Program.meets_bind
      apply (hstage past session hmoved.1 hmoved.2).mono
      intro past result hleaves
      cases result with
      | error exc => trivial
      | ok session =>
          change Program.Meets _ _ _ (unlessTerminal session rest)
          rw [unlessTerminal]
          split_ifs
          · trivial
          · exact hrest past session hleaves.1

theorem meets_runPipeline_sound (h : Carries errorText request past session) :
    Program.Meets (Sound errorText request) (fun _ _ => True) past
      (runPipeline errorText session) := by
  apply meets_next_sound h fun _ _ => meets_validate_sound
  intro past session h
  apply meets_next_sound h fun _ _ h _ => meets_selectTarget_sound h
  intro past session h
  apply meets_next_sound h fun _ _ h _ => meets_verifyTrust_sound h
  intro past session h
  apply meets_next_sound h fun _ _ => meets_prepareArtifacts_sound
  intro past session h
  apply meets_next_sound h fun _ _ => meets_transferArtifacts_sound
  intro past session h
  apply Program.meets_bind
  apply (meets_transition_sound h fun _ hnone => by cases hnone).mono
  intro past result hmoved
  cases result with
  | error exc => trivial
  | ok session =>
      apply meets_next_sound hmoved.1 fun _ _ => meets_continueOnTarget_sound
      intro past session h
      apply Program.meets_bind
      apply (meets_transition_sound h fun _ hnone => by cases hnone).mono
      intro past result hmoved
      cases result with
      | error exc => trivial
      | ok session => exact (meets_verifyResult_sound hmoved.1).mono fun _ _ _ => trivial

theorem carries_new (past : Past Snapshot) (continuityId : String) :
    Carries errorText request past (.new continuityId request) := by
  refine ⟨rfl, ?_, ?_⟩
  · rintro _ ⟨⟩
  · rintro _ ⟨⟩

/-- **One run.** -/
theorem meets_requestContinuity_sound (continuityId : String) :
    Program.Meets (Sound errorText request) (fun _ _ => True) ([] : Past Snapshot)
      (requestContinuity errorText continuityId request) := by
  apply Program.meets_bind
  refine ⟨carries_new [] continuityId, fun answer => ?_⟩
  cases answer with
  | error exc => trivial
  | ok =>
      apply Program.meets_tryCatch
      apply (meets_runPipeline_sound (carries_new _ continuityId)).mono
      intro past result _
      cases result with
      | ok session => trivial
      | error exc =>
          change Program.Meets _ _ _ (ite _ _ _)
          split_ifs
          · trivial
          · apply (meets_transition_sound (carries_new past continuityId) ?_).mono
              fun _ _ _ => trivial
            rintro result ⟨rfl⟩
            exact reports_of_silent ⟨rfl, rfl, rfl⟩ (by simp)

theorem carries_of_stored (h : Program.Admitted (Sound errorText request) past)
    (hmem : session ∈ stored past) : Carries errorText request past session := by
  obtain ⟨e, he, hstored⟩ := List.mem_filterMap.mp hmem
  obtain ⟨before, after, rfl⟩ := List.append_of_mem he
  have hsound := h before e after rfl
  rcases stored?_cases hstored with rfl | rfl
  · exact Carries.append hsound _
  · exact Carries.append hsound _

theorem valid_of_selected {continuityId : String} {candidate : NavigationCandidate}
    (h : Program.Admitted (Starts continuityId request) past)
    (hselected : Selected past candidate) :
    Valid request := by
  obtain ⟨navRequest, snapshot, reason, hmem⟩ := hselected
  obtain ⟨before, after, rfl⟩ := List.append_of_mem hmem
  exact (h before _ after rfl).2.1

/-! ### Premature success -/

/-- Where a run can be observed: where it suspends, and once it has ended. -/
def Observed (run before : Past Snapshot) : Prop :=
  before = run ∨ ∃ e after, run = before ++ e :: after ∧ e.op.suspends = true

theorem Observed.isPrefix {run before : Past Snapshot} (h : Observed run before) :
    ∃ later, run = before ++ later := by
  obtain rfl | ⟨e, after, hrun, -⟩ := h
  · exact ⟨[], (List.append_nil before).symm⟩
  · exact ⟨e :: after, hrun⟩

end Continuity

open Continuity

namespace ContinuityService

variable {Snapshot : Type}

/-- No observer sees a success that Zarya has not reported, and no result that is stored at any time
says anything of Zarya that it has not said. -/
def NeverPremature (service : ContinuityService) (continuityId : String)
    (run : Past Snapshot) : Prop :=
  (∀ before, Observed run before → ∀ session result,
      (service.after before).getSession continuityId = some session → session.result = some result →
      result.outcome = .success → VerifiedSuccess before)
    ∧ ∀ before e after session result, run = before ++ e :: after → stored? e = some session →
      session.result = some result →
        Silent result ∨ ∃ resp, Responded before resp ∧ Repeats result resp

theorem requestContinuity_sound (service : ContinuityService)
    (collaborators : Collaborators Snapshot) (errorText : PyValue → PyValue → String)
    (continuityId : String) (request : ContinuityRequest) :
    Program.Admitted (Sound errorText request)
      (service.requestContinuity collaborators errorText continuityId request).1 :=
  (meets_requestContinuity_sound continuityId).admitted Program.admitted_nil _

/-- Selects, trusts and takes whatever it is asked for. -/
def compliant (snapshot : Snapshot) : Collaborators Snapshot := fun _ op =>
  match op with
  | .enter _ => .ok ()
  | .store _ => ()
  | .createSnapshot => .ok snapshot
  | .navigate _ _ => .ok ⟨some ⟨"b", "zarya", ∅⟩, ""⟩
  | .getRecord nodeId => .ok (some (.new nodeId .trusted .epoch))
  | .transfer _ _ => .ok ⟨"t", .completed⟩
  | .continueWork _ _ _ _ => .ok ⟨"o", .verifiedSuccess, true, true, ""⟩

/-- **No premature success.** Whatever the collaborators do, no success shows before Zarya has
verified one, if and only if the request names an artifact or is turned down by its validation. -/
theorem requestContinuity_neverPremature_iff [Inhabited Snapshot]
    (errorText : PyValue → PyValue → String) (continuityId : String) (request : ContinuityRequest) :
    (∀ (service : ContinuityService) (collaborators : Collaborators Snapshot),
        service.getSession continuityId = none →
        service.NeverPremature continuityId
          (service.requestContinuity collaborators errorText continuityId request).1)
      ↔ request.artifactPaths ≠ [] ∨ ¬Valid request := by
  constructor
  · intro h
    by_contra hcondition
    rw [not_or, not_not, not_not] at hcondition
    obtain ⟨hpaths, hrequest⟩ := hcondition
    have hadmitted := requestContinuity_admitted {} (compliant (default : Snapshot)) errorText
      continuityId request
    have hobliges : Obliges
      (fun past => (after {} past).answer (compliant (default : Snapshot) past))
        request ⟨"b", "zarya", ∅⟩ := by
      refine ⟨⟨default, fun _ => rfl, fun _ => ⟨"", rfl⟩⟩, fun _ => ⟨_, rfl, rfl⟩,
        fun _ _ _ => ⟨_, rfl, ?_⟩⟩
      exact ⟨by simp, by simp⟩
    have hhandsOver : HandsOver _ continuityId request _ []
        (Continuity.requestContinuity errorText continuityId request) :=
      handsOver_requestContinuity hobliges hrequest rfl rfl
    obtain ⟨before, answer, later, session, hrun, hhand⟩ := hhandsOver
    have hstarts := hadmitted before _ later hrun
    obtain ⟨-, -, -, _, _, _, hcleared, -⟩ := hstarts
    apply hcleared.not_verifiedSuccess
    apply (h {} (compliant default) rfl).1 before (Or.inr ⟨_, later, hrun, rfl⟩) session
      skippedTransfer _ (hhand.result_eq.trans (if_pos hpaths)) rfl
    rw [requestContinuity, hrun] at hadmitted
    rw [getSession_after {} hadmitted.of_append, hhand.last, Option.some_or]
  · intro hcondition service collaborators hfresh
    have hadmitted :=
      requestContinuity_admitted service collaborators errorText continuityId request
    have hsound := requestContinuity_sound service collaborators errorText continuityId request
    constructor
    · intro before hobserved session result hsession hresult hsuccess
      obtain ⟨later, hrun⟩ := hobserved.isPrefix
      rw [hrun] at hadmitted hsound
      rw [getSession_after service hadmitted.of_append, hfresh, Option.or_none] at hsession
      have hcarries := carries_of_stored hsound.of_append (List.mem_of_getLast? hsession)
      obtain ⟨resp, hresponded, -, hverified⟩ | ⟨-, hskipped⟩ := hcarries.result result hresult
      · exact hresponded.verified (hverified hsuccess)
      · exfalso
        obtain ⟨hpaths, candidate, hselected⟩ := hskipped hsuccess
        rcases hcondition with hnonempty | hinvalid
        · exact hnonempty hpaths
        · exact hinvalid (valid_of_selected hadmitted.of_append hselected)
    · intro before e after session result hrun hstored hresult
      have hreports : Reports request before result := by
        have hevent := hsound before e after hrun
        rcases stored?_cases hstored with rfl | rfl
        · exact Carries.result hevent result hresult
        · exact Carries.result hevent result hresult
      obtain ⟨resp, hresponded, hrepeats, -⟩ | ⟨hsilent, -⟩ := hreports
      · exact Or.inr ⟨resp, hresponded, hrepeats⟩
      · exact Or.inl hsilent

def bareRequest : ContinuityRequest := { draftRequest with artifactPaths := [] }

/-- Without artifacts the session shows a success while the work is being handed over. -/
theorem bare_success_before_continuation : ¬NeverPremature {} "c"
    (requestContinuity {} (obliging .completed) (fun _ _ => "") "c" bareRequest).1 := by
  rintro ⟨hobserved, -⟩
  have hsplit : (requestContinuity {} (obliging .completed) (fun _ _ => "") "c" bareRequest).1
      = (requestContinuity {} (obliging .completed) (fun _ _ => "") "c" bareRequest).1.take 14
        ++ ⟨.continueWork bareRequest.portableWork "a" "c" none,
          .ok ⟨"o", .verifiedSuccess, true, true, ""⟩⟩
        :: (requestContinuity {} (obliging .completed) (fun _ _ => "") "c" bareRequest).1.drop 15 :=
          rfl
  obtain ⟨portableWork, sourceDeviceId, continuityId, targetUrl, resp, hmem, -⟩ :=
    hobserved _ (Or.inr ⟨_, _, hsplit, rfl⟩) _ skippedTransfer rfl rfl rfl
  have hcalls : isContinueWork (⟨.continueWork portableWork sourceDeviceId continuityId targetUrl,
      .ok resp⟩ : Event (Answer Unit)) = false := by
    have hnone : ∀ e ∈ (requestContinuity {} (obliging .completed) (fun _ _ => "") "c"
        bareRequest).1.take 14, isContinueWork e = false := by
      decide
    exact hnone _ hmem
  cases hcalls

end ContinuityService

end Shyam
