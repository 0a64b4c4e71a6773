import Shyam.Proof.ContinuityRuns

/-!
# A run that nothing holds up

When the request is valid, a target is made of the selected candidate, the candidate is trusted and
no transfer fails, the run comes to the hand-over. What it has stored by then is known.
-/

namespace Shyam

open Python Interaction

namespace Continuity

variable {Snapshot : Type}

/-- Collaborators that select the candidate, trust it, and take every artifact. -/
structure Obliges (answers : Past Snapshot → (op : Op Snapshot) → Answer Snapshot op)
    (request : ContinuityRequest) (candidate : NavigationCandidate) : Prop where
  navigate : ∃ snapshot, (∀ past, answers past .createSnapshot = .ok snapshot) ∧ ∀ past, ∃ reason,
    answers past (.navigate ⟨"zarya.work.continue", request.targetConstraints⟩ snapshot)
      = .ok ⟨some candidate, reason⟩
  trusts : ∀ past, ∃ trustRecord, answers past (.getRecord candidate.nodeId)
    = .ok (some trustRecord)
    ∧ trustRecord.status = .trusted
  transfers : ∀ past peerId artifactPath, ∃ response,
    answers past (.transfer peerId artifactPath) = .ok response ∧ Passes response

/-- The result that is stored when there is nothing to transfer. -/
def skippedTransfer : ContinuityResult := { outcome := .success, transferCompleted := true }

/-- The session stored last, which is the one in hand. -/
structure InHand (continuityId : String) (request : ContinuityRequest) (state : ContinuityState)
    (target : Option ContinuityTarget) (result : Option ContinuityResult) (past : Past Snapshot)
    (session : ContinuitySession) : Prop where
  id_eq : session.continuityId = continuityId
  request_eq : session.request = request
  state_eq : session.state = state
  target_eq : session.target = target
  result_eq : session.result = result
  last : (stored past).getLast? = some session

variable {answers : Past Snapshot → (op : Op Snapshot) → Answer Snapshot op}
  {errorText : PyValue → PyValue → String} {continuityId : String} {request : ContinuityRequest}
  {candidate : NavigationCandidate} {made : ContinuityTarget} {past : Past Snapshot}
  {session : ContinuitySession} {state targetState : ContinuityState}
  {target : Option ContinuityTarget} {result : Option ContinuityResult}

def Goes (answers : Past Snapshot → (op : Op Snapshot) → Answer Snapshot op)
    (next : Past Snapshot → ContinuitySession → Prop) (past : Past Snapshot)
    (p : Script Snapshot ContinuitySession) : Prop :=
  ∃ past' session', p.run answers past = (past', .ok session') ∧ next past' session'

/-- The work is handed over to the target while the session is in hand. -/
def HandsOver (answers : Past Snapshot → (op : Op Snapshot) → Answer Snapshot op)
    (continuityId : String) (request : ContinuityRequest) (made : ContinuityTarget)
    (past : Past Snapshot) (p : Script Snapshot ContinuitySession) : Prop :=
  ∃ before answer after session, (p.run answers past).1 = before
      ++ ⟨.continueWork request.portableWork request.sourceDeviceId continuityId
        (orElse made.zaryaUrl none), answer⟩ :: after
    ∧ InHand continuityId request .continuing (some { made with trustVerified := true })
      (if request.artifactPaths = [] then some skippedTransfer else none) before session

theorem Goes.handsOver {next : Past Snapshot → ContinuitySession → Prop}
    {p : Script Snapshot ContinuitySession}
    {f : ContinuitySession → Script Snapshot ContinuitySession} (h : Goes answers next past p)
    (hrest : ∀ past' session', next past' session' →
      HandsOver answers continuityId request made past' (f session')) :
    HandsOver answers continuityId request made past (p >>= f) := by
  obtain ⟨past', session', hrun, hnext⟩ := h
  rw [HandsOver, Program.run_bind_of_ok hrun]
  exact hrest past' session' hnext

theorem goes_rebuild {session' : ContinuitySession}
    (h : ∀ past : Past Snapshot, (stored past).getLast? = some session' →
      InHand continuityId request state target result past session') :
    Goes answers (InHand continuityId request state target result) past (rebuild session') :=
  ⟨_, session', rfl, h _ (by rw [stored_store, List.getLast?_concat])⟩

theorem goes_transition (h : InHand continuityId request state target result past session)
    (hvalid : state.isValidTransition targetState = true) :
    Goes answers (InHand continuityId request targetState target result) past
      (transition session targetState none) := by
  rw [transition, h.state_eq, if_pos hvalid]
  apply goes_rebuild
  intro past' hlast
  exact ⟨h.id_eq, h.request_eq, rfl, h.target_eq, h.result_eq, hlast⟩

theorem handsOver_next {next : Past Snapshot → ContinuitySession → Prop}
    {stage rest : ContinuitySession → Script Snapshot ContinuitySession}
    (h : InHand continuityId request state target result past session)
    (hvalid : state.isValidTransition targetState = true)
    (hstage : ∀ past session, InHand continuityId request targetState target result past session →
      Goes answers next past (stage session))
    (hlive : ∀ past session, next past session → session.state.isTerminal = false)
    (hrest : ∀ past session, next past session →
      HandsOver answers continuityId request made past (rest session)) :
    HandsOver answers continuityId request made past (do
      let session ← transition session targetState none
      let session ← stage session
      unlessTerminal session rest) := by
  apply (goes_transition h hvalid).handsOver
  intro past session h
  apply (hstage past session h).handsOver
  intro past session h
  rw [unlessTerminal, hlive past session h, if_neg Bool.false_ne_true]
  exact hrest past session h

/-! ### The stages -/

theorem goes_validate (hrequest : Valid request)
    (h : InHand continuityId request .validating none none past session) :
    Goes answers (InHand continuityId request .validating none none) past (validate session) := by
  obtain ⟨hwork, hid, hintent⟩ := hrequest
  rw [validate]
  simp only [h.request_eq, if_neg hwork, if_neg hid, if_neg hintent]
  exact ⟨past, session, rfl, h⟩

theorem goes_selectTarget (hobliges : Obliges answers request candidate)
    (hmade : makeTarget errorText candidate = .ok made)
    (h : InHand continuityId request .targetSelected none none past session) :
    Goes answers (InHand continuityId request .targetSelected (some made) none) past
      (selectTarget errorText session) := by
  obtain ⟨snapshot, hsnapshot, hnavigate⟩ := hobliges.navigate
  have hcreated : (createSnapshot : Script Snapshot Snapshot).run answers past
      = (past ++ [⟨.createSnapshot, .ok snapshot⟩], .ok snapshot) := by
    rw [createSnapshot, Program.run, Program.run, hsnapshot]
  obtain ⟨reason, hselected⟩ := hnavigate (past ++ [⟨.createSnapshot, .ok snapshot⟩])
  have hnavigated :
    (navigate ⟨"zarya.work.continue", request.targetConstraints⟩ snapshot).run answers
      (past ++ [⟨.createSnapshot, .ok snapshot⟩])
      = (past ++ [⟨.createSnapshot, .ok snapshot⟩] ++ [⟨.navigate ⟨"zarya.work.continue",
          request.targetConstraints⟩ snapshot, .ok ⟨some candidate, reason⟩⟩],
        .ok ⟨some candidate, reason⟩) := by
    rw [navigate, Program.run, Program.run, hselected]
  have hstored : Goes answers (InHand continuityId request .targetSelected (some made) none)
      (past ++ [⟨.createSnapshot, .ok snapshot⟩]
        ++ [⟨.navigate ⟨"zarya.work.continue", request.targetConstraints⟩ snapshot,
          .ok ⟨some candidate, reason⟩⟩]) (rebuild { session with target := some made }) := by
    apply goes_rebuild
    intro past' hlast
    exact ⟨h.id_eq, h.request_eq, h.state_eq, rfl, h.result_eq, hlast⟩
  obtain ⟨past', session', hrun, hnext⟩ := hstored
  refine ⟨past', session', ?_, hnext⟩
  have hconstraints : session.request.targetConstraints = request.targetConstraints := by
    rw [h.request_eq]
  rw [selectTarget, hconstraints]
  apply Program.run_tryCatch_of_ok
  rw [Program.run_bind_of_ok hcreated, Program.run_bind_of_ok hnavigated]
  dsimp only
  rw [hmade]
  exact hrun

theorem goes_verifyTrust (hobliges : Obliges answers request candidate)
    (hdevice : made.deviceId = candidate.nodeId)
    (h : InHand continuityId request .authorized (some made) none past session) :
    Goes answers (InHand continuityId request .authorized
      (some { made with trustVerified := true }) none) past (verifyTrust session) := by
  obtain ⟨trustRecord, hrecord, htrusted⟩ := hobliges.trusts past
  have hasked : (getRecord made.deviceId : Script Snapshot (Option TrustRecord)).run answers past
      = (past ++ [⟨.getRecord made.deviceId, .ok (some trustRecord)⟩], .ok (some trustRecord)) := by
    rw [getRecord, Program.run, Program.run, hdevice, hrecord]
  have hstored : Goes answers (InHand continuityId request .authorized
      (some { made with trustVerified := true }) none)
      (past ++ [⟨.getRecord made.deviceId, .ok (some trustRecord)⟩])
      (rebuild { session with target := some { made with trustVerified := true } }) := by
    apply goes_rebuild
    intro past' hlast
    exact ⟨h.id_eq, h.request_eq, h.state_eq, rfl, h.result_eq, hlast⟩
  obtain ⟨past', session', hrun, hnext⟩ := hstored
  refine ⟨past', session', ?_, hnext⟩
  rw [verifyTrust, h.target_eq]
  apply Program.run_tryCatch_of_ok
  rw [Program.run_bind_of_ok hasked]
  simp only [htrusted, reduceCtorEq, if_false, ne_eq, not_true_eq_false]
  exact hrun

theorem goes_transferEach (hobliges : Obliges answers request candidate) (made : ContinuityTarget)
    (h : ∀ (past' : Past Snapshot) last,
      (stored past').getLast? = some { session with transferId := last } →
      InHand continuityId request state target result past' { session with transferId := last })
    (rest : List String) : ∀ (past : Past Snapshot) last,
      Goes answers (InHand continuityId request state target result) past
        (transferEach session made last rest) := by
  induction rest with
  | nil =>
      intro past last
      exact goes_rebuild fun past' hlast => h past' last hlast
  | cons artifactPath rest ih =>
      intro past last
      obtain ⟨response, hanswer, hpasses⟩ := hobliges.transfers past (peerOf made) artifactPath
      obtain ⟨past', session', hrun, hnext⟩ := ih
        (past ++ [⟨.transfer (peerOf made) artifactPath, .ok response⟩]) (some response.transferId)
      have hasked : (transfer (peerOf made) artifactPath : Script Snapshot FluxTransferResponse).run
          answers past
            = (past ++ [⟨.transfer (peerOf made) artifactPath, .ok response⟩], .ok response) := by
        rw [transfer, Program.run, Program.run, hanswer]
      refine ⟨past', session', ?_, hnext⟩
      rw [transferEach]
      refine (Program.run_bind_of_ok hasked _).trans ?_
      rw [if_neg (not_or.mpr hpasses)]
      exact hrun

theorem goes_transferArtifacts (hobliges : Obliges answers request candidate)
    (h : InHand continuityId request .transferring (some made) none past session) :
    Goes answers (InHand continuityId request .transferring (some made)
      (if request.artifactPaths = [] then some skippedTransfer else none)) past
      (transferArtifacts session) := by
  rw [transferArtifacts, h.target_eq]
  simp only [h.request_eq]
  split_ifs with hpaths
  · apply goes_rebuild
    intro past' hlast
    exact ⟨h.id_eq, rfl, h.state_eq, rfl, rfl, hlast⟩
  · obtain ⟨past', session', hrun, hnext⟩ := goes_transferEach hobliges made
      (fun past' last hlast =>
        (⟨h.id_eq, h.request_eq, h.state_eq, h.target_eq, h.result_eq, hlast⟩ :
          InHand continuityId request .transferring (some made) none past'
            { session with transferId := last })) request.artifactPaths past none
    exact ⟨past', session', Program.run_tryCatch_of_ok hrun _, hnext⟩

theorem handsOver_continueOnTarget (hzarya : target = some { made with trustVerified := true })
    (h : InHand continuityId request .continuing target
      (if request.artifactPaths = [] then some skippedTransfer else none) past session)
    (rest : ContinuitySession → Script Snapshot ContinuitySession) :
    HandsOver answers continuityId request made past (continueOnTarget session >>= rest) := by
  subst hzarya
  have hasked : ∃ next, continueOnTarget session >>= rest
      = .ask (.continueWork session.request.portableWork session.request.sourceDeviceId
          session.continuityId (orElse made.zaryaUrl none)) next := by
    rw [continueOnTarget, h.target_eq]
    exact ⟨_, rfl⟩
  rw [h.request_eq, h.id_eq] at hasked
  obtain ⟨next, hasked⟩ := hasked
  obtain ⟨answer, after, hrun⟩ := Program.exists_run_ask answers past _ next
  rw [← hasked] at hrun
  exact ⟨past, answer, after, session, hrun, h⟩

theorem handsOver_runPipeline (hobliges : Obliges answers request candidate)
    (hrequest : Valid request) (hmade : makeTarget errorText candidate = .ok made)
    (h : InHand continuityId request .requested none none past session) :
    HandsOver answers continuityId request made past (runPipeline errorText session) := by
  apply handsOver_next h rfl (fun _ _ => goes_validate hrequest)
  · intro _ _ h
    rw [h.state_eq]
    rfl
  intro past session h
  apply handsOver_next h rfl (fun _ _ => goes_selectTarget hobliges hmade)
  · intro _ _ h
    rw [h.state_eq]
    rfl
  intro past session h
  apply handsOver_next h rfl (fun _ _ => goes_verifyTrust hobliges (makeTarget_deviceId hmade))
  · intro _ _ h
    rw [h.state_eq]
    rfl
  intro past session h
  apply handsOver_next h rfl (fun past session h => ⟨past, session, rfl, h⟩)
  · intro _ _ h
    rw [h.state_eq]
    rfl
  intro past session h
  apply handsOver_next h rfl (fun _ _ => goes_transferArtifacts hobliges)
  · intro _ _ h
    rw [h.state_eq]
    rfl
  intro past session h
  apply (goes_transition h rfl).handsOver
  intro past session h
  apply (goes_transition h rfl).handsOver
  intro past session h
  exact handsOver_continueOnTarget rfl h _

theorem handsOver_requestContinuity (hobliges : Obliges answers request candidate)
    (hrequest : Valid request) (hmade : makeTarget errorText candidate = .ok made)
    (hadmitted : answers [] (.enter (.new continuityId request)) = .ok ()) :
    HandsOver answers continuityId request made []
      (requestContinuity errorText continuityId request) := by
  have hentered : (enter (.new continuityId request) : Script Snapshot Unit).run answers []
      = ([⟨.enter (.new continuityId request), .ok ()⟩], .ok ()) := by
    rw [enter, Program.run, Program.run, hadmitted]
    rfl
  have h : InHand continuityId request .requested none none
      ([⟨.enter (.new continuityId request), .ok ()⟩] : Past Snapshot)
      (.new continuityId request) := ⟨rfl, rfl, rfl, rfl, rfl, rfl⟩
  obtain ⟨before, answer, after, session, hrun, hhand⟩ :=
    handsOver_runPipeline hobliges hrequest hmade h
  rw [HandsOver, requestContinuity, Program.run_bind_of_ok hentered]
  obtain ⟨later, hlater⟩ := Program.run_prefix_tryCatch answers
    ([⟨.enter (.new continuityId request), .ok ()⟩] : Past Snapshot)
    (runPipeline errorText (.new continuityId request)) fun exc =>
      if exc.cls ∈ ContinuityError.classes then throw exc
      else transition (.new continuityId request) .failed (some
        { outcome := .failed, reason := "Unexpected error: " ++ exc.text })
  rw [hrun, List.append_assoc, List.cons_append] at hlater
  exact ⟨before, answer, after ++ later, session, hlater.symm, hhand⟩

end Continuity

end Shyam
