import Shyam.Continuity.Sessions

/-!
# What a run of the pipeline does

One judgment about `request_continuity` carries every property of a single run: which operations it
may start after what came before, and what it has done when it ends. The stages are taken in turn.
Each keeps hold of the session that is stored and of the list of calls made so far.
-/

namespace Shyam

open Python Interaction

namespace Continuity

variable {Snapshot : Type}

/-! ### Reading the past -/

def stored? : Event (Answer Snapshot) → Option ContinuitySession
  | ⟨.enter session, .ok ()⟩ => some session
  | ⟨.store session, ()⟩ => some session
  | _ => none

def stored (past : Past Snapshot) : List ContinuitySession := past.filterMap stored?

def isTransfer : Event (Answer Snapshot) → Bool
  | ⟨.transfer _ _, _⟩ => true
  | _ => false

def isContinueWork : Event (Answer Snapshot) → Bool
  | ⟨.continueWork _ _ _ _, _⟩ => true
  | _ => false

def isGetRecord : Event (Answer Snapshot) → Bool
  | ⟨.getRecord _, _⟩ => true
  | _ => false

/-- The calls to the trust service and to the providers. -/
def isCall (e : Event (Answer Snapshot)) : Bool := isGetRecord e || isTransfer e || isContinueWork e

def calls (past : Past Snapshot) : Past Snapshot := past.filter isCall

def transfers (past : Past Snapshot) : Past Snapshot := past.filter isTransfer

theorem stored_append (past later : Past Snapshot) :
    stored (past ++ later) = stored past ++ stored later := List.filterMap_append

theorem calls_append (past later : Past Snapshot) :
    calls (past ++ later) = calls past ++ calls later := List.filter_append _ _

theorem transfers_append (past later : Past Snapshot) :
    transfers (past ++ later) = transfers past ++ transfers later := List.filter_append _ _

theorem stored_some (past : Past Snapshot) {e : Event (Answer Snapshot)}
    {session : ContinuitySession} (h : stored? e = some session) :
    stored (past ++ [e]) = stored past ++ [session] := by
  rw [stored_append, stored, stored, List.filterMap_cons, h]
  rfl

theorem stored_other (past : Past Snapshot) {e : Event (Answer Snapshot)} (h : stored? e = none) :
    stored (past ++ [e]) = stored past := by
  rw [stored_append, stored, stored, List.filterMap_cons, h]
  exact List.append_nil _

theorem calls_call (past : Past Snapshot) {e : Event (Answer Snapshot)} (h : isCall e = true) :
    calls (past ++ [e]) = calls past ++ [e] := by
  rw [calls_append, calls, calls, List.filter_cons, if_pos h]
  rfl

theorem calls_other (past : Past Snapshot) {e : Event (Answer Snapshot)} (h : isCall e = false) :
    calls (past ++ [e]) = calls past := by
  rw [calls_append, calls, calls, List.filter_cons, h]
  exact List.append_nil _

theorem transfers_other (past : Past Snapshot) {e : Event (Answer Snapshot)}
    (h : isTransfer e = false) : transfers (past ++ [e]) = transfers past := by
  rw [transfers_append, transfers, transfers, List.filter_cons, h]
  exact List.append_nil _

theorem transfers_eq_filter_calls (past : Past Snapshot) :
    transfers past = (calls past).filter isTransfer := by
  rw [calls, List.filter_filter, transfers]
  congr 1
  funext e
  cases h : isTransfer e <;> simp [isCall, h]

/-! ### The calls of a run -/

def Selected (past : Past Snapshot) (candidate : NavigationCandidate) : Prop :=
  ∃ request snapshot reason,
    (⟨.navigate request snapshot, .ok ⟨some candidate, reason⟩⟩ : Event (Answer Snapshot)) ∈ past

/-- A transfer that is not reported as failed or cancelled. -/
def Passes (response : FluxTransferResponse) : Prop :=
  response.status ≠ .failed ∧ response.status ≠ .cancelled

def trustCall (nodeId : String) (answer : Except Exc (Option TrustRecord)) :
    Event (Answer Snapshot) := ⟨.getRecord nodeId, answer⟩

/-- Transfers that returned, to one peer. -/
def transferCalls (peerId : String) (done : List (String × FluxTransferResponse)) : Past Snapshot :=
  done.map fun transferred => ⟨.transfer peerId transferred.1, .ok transferred.2⟩

/-- The selected node was found trusted, and after that nothing was called but the transfers `done`,
none of which is reported as failed or cancelled. -/
structure Cleared (past : Past Snapshot) (candidate : NavigationCandidate) (peerId : String)
    (done : List (String × FluxTransferResponse)) : Prop where
  selected : Selected past candidate
  calls : ∃ trustRecord, trustRecord.status = .trusted
    ∧ calls past = trustCall candidate.nodeId (.ok (some trustRecord)) :: transferCalls peerId done
  passes : ∀ transferred ∈ done, Passes transferred.2

/-- Every artifact was transferred, to one peer, with a status other than FAILED and CANCELLED. -/
def Delivered (request : ContinuityRequest) (past : Past Snapshot) : Prop :=
  ∃ peerId done, done.map Prod.fst = request.artifactPaths
    ∧ (∀ transferred ∈ done, Passes transferred.2) ∧ transfers past = transferCalls peerId done

def VerifiedSuccess (past : Past Snapshot) : Prop :=
  ∃ portableWork sourceDeviceId continuityId targetUrl resp,
    (⟨.continueWork portableWork sourceDeviceId continuityId targetUrl, .ok resp⟩ :
        Event (Answer Snapshot)) ∈ past
      ∧ resp.outcome = .verifiedSuccess

/-- Every transfer returned, with a status other than FAILED and CANCELLED. -/
def AllPass (past : Past Snapshot) : Prop :=
  ∀ peerId artifactPath answer,
    (⟨.transfer peerId artifactPath, answer⟩ : Event (Answer Snapshot)) ∈ past →
      ∃ response, answer = .ok response ∧ Passes response

/-- The work is handed over once artifacts were transferred and no transfer failed. -/
def Settled (past : Past Snapshot) : Prop :=
  transfers past ≠ [] → AllPass past → ∃ e ∈ past, isContinueWork e = true

/-- The request passes `_validate`. -/
def Valid (request : ContinuityRequest) : Prop :=
  request.portableWork.entries ≠ [] ∧ request.workId ≠ "" ∧ request.continuityIntent ≠ .migration

/-! ### The session of a run -/

variable (continuityId : String) (request : ContinuityRequest)

/-- The session is the one that the run stored last. -/
structure Holds (past : Past Snapshot) (session : ContinuitySession) : Prop where
  id_eq : session.continuityId = continuityId
  request_eq : session.request = request
  last : (stored past).getLast? = some session
  first : ((stored past).map ContinuitySession.state).head? = some .requested
  chain : ((stored past).map ContinuitySession.state).IsChain fun current target =>
    current = target ∨ current.isValidTransition target = true
  delivered : ∀ result, session.result = some result → result.transferCompleted = true →
    Delivered request past

/-- The session stored last is not terminal. -/
def Live (past : Past Snapshot) : Prop :=
  ∃ session, (stored past).getLast? = some session ∧ session.state.isTerminal = false

/-- State and outcome of the final session agree with each other and with Zarya. -/
def Consistent (past : Past Snapshot) (session : ContinuitySession) : Prop :=
  ∃ result, session.result = some result
    ∧ (session.state = .completed ↔ result.outcome = .success)
    ∧ (session.state = .unknown ↔ result.outcome = .unknown)
    ∧ (session.state = .unsupported ↔ result.outcome = .unsupported)
    ∧ (session.state = .failed ↔ result.outcome = .failed)
    ∧ (session.state = .completed ↔ VerifiedSuccess past)

structure Final (past : Past Snapshot) (session : ContinuitySession) : Prop where
  holds : Holds continuityId request past session
  terminal : session.state.isTerminal = true
  consistent : Consistent past session
  settled : Settled past

/-- When a run may start an operation. -/
def Starts (past : Past Snapshot) : Op Snapshot → Prop
  | .enter session => past = [] ∧ session = .new continuityId request
  | .store session => session.continuityId = continuityId ∧ session.request = request
      ∧ (∃ old, (stored past).getLast? = some old ∧ old.state.isTerminal = false
          ∧ (old.state = session.state ∨ old.state.isValidTransition session.state = true))
      ∧ ∀ result, session.result = some result → result.transferCompleted = true →
          Delivered request past
  | .createSnapshot => Live past ∧ Valid request ∧ calls past = []
  | .navigate _ _ => Live past ∧ Valid request ∧ calls past = []
  | .getRecord nodeId => Live past ∧ Valid request ∧ calls past = []
      ∧ ∃ candidate, Selected past candidate ∧ nodeId = candidate.nodeId
  | .transfer peerId artifactPath => Live past ∧ Valid request
      ∧ ∃ candidate done, Cleared past candidate peerId done
        ∧ done.map Prod.fst ++ [artifactPath] <+: request.artifactPaths
  | .continueWork portableWork sourceDeviceId id _ => Live past ∧ Valid request
      ∧ (portableWork = request.portableWork ∧ sourceDeviceId = request.sourceDeviceId
        ∧ id = continuityId)
      ∧ ∃ candidate peerId done, Cleared past candidate peerId done
        ∧ done.map Prod.fst = request.artifactPaths

/-- How a run ends: it was refused, or it returns a final session. -/
def Ends (past : Past Snapshot) (result : Except Exc ContinuitySession) : Prop :=
  (∃ exc, result = .error exc ∧ past = [⟨.enter (.new continuityId request), .error exc⟩])
    ∨ ∃ session, result = .ok session ∧ Final continuityId request past session

variable {continuityId request} {past : Past Snapshot} {session session' : ContinuitySession}
  {post : Past Snapshot → Except Exc ContinuitySession → Prop} {candidate : NavigationCandidate}
  {target : ContinuityTarget} {peerId : String} {done : List (String × FluxTransferResponse)}

/-! ### Storing a session -/

@[simp] theorem calls_store (past : Past Snapshot) (session : ContinuitySession) :
    calls (past ++ [⟨.store session, ()⟩]) = calls past := calls_other past rfl

@[simp] theorem transfers_store (past : Past Snapshot) (session : ContinuitySession) :
    transfers (past ++ [⟨.store session, ()⟩]) = transfers past := transfers_other past rfl

@[simp] theorem stored_store (past : Past Snapshot) (session : ContinuitySession) :
    stored (past ++ [⟨.store session, ()⟩]) = stored past ++ [session] := stored_some past rfl

theorem Selected.append (h : Selected past candidate)
    (later : Past Snapshot) : Selected (past ++ later) candidate := by
  obtain ⟨request, snapshot, reason, hmem⟩ := h
  exact ⟨request, snapshot, reason, List.mem_append_left later hmem⟩

theorem Cleared.store (h : Cleared past candidate peerId done) (session : ContinuitySession) :
    Cleared (past ++ [⟨.store session, ()⟩]) candidate peerId done :=
  ⟨h.selected.append _, by rw [calls_store]; exact h.calls, h.passes⟩

theorem Delivered.store (h : Delivered request past) (session : ContinuitySession) :
    Delivered request (past ++ [⟨.store session, ()⟩]) := by
  obtain ⟨peerId, done, hpaths, hpasses, htransfers⟩ := h
  exact ⟨peerId, done, hpaths, hpasses, by rw [transfers_store, htransfers]⟩

theorem Settled.store (h : Settled past) (session : ContinuitySession) :
    Settled (past ++ [⟨.store session, ()⟩]) := by
  intro htransfers hpass
  rw [transfers_store] at htransfers
  obtain ⟨e, hmem, hcontinue⟩ := h htransfers fun peerId artifactPath answer hmem =>
    hpass peerId artifactPath answer (List.mem_append_left _ hmem)
  exact ⟨e, List.mem_append_left _ hmem, hcontinue⟩

theorem Holds.live (h : Holds continuityId request past session)
    (hlive : session.state.isTerminal = false) : Live past := ⟨session, h.last, hlive⟩

/-- **A store.** The new session keeps the id and the request, follows the table or keeps the state,
and claims no delivery that did not happen. -/
theorem meets_rebuild (h : Holds continuityId request past session)
    (hlive : session.state.isTerminal = false)
    (hid : session'.continuityId = session.continuityId)
    (hrequest : session'.request = session.request)
    (hstate : session.state = session'.state
      ∨ session.state.isValidTransition session'.state = true)
    (hdelivered : ∀ result, session'.result = some result → result.transferCompleted = true →
      Delivered request past)
    (hpost : Holds continuityId request (past ++ [⟨.store session', ()⟩]) session' →
      post (past ++ [⟨.store session', ()⟩]) (.ok session')) :
    Program.Meets (Starts continuityId request) post past (rebuild session') := by
  refine ⟨⟨hid.trans h.id_eq, hrequest.trans h.request_eq, ⟨session, h.last, hlive, hstate⟩,
    hdelivered⟩, fun _ => hpost ?_⟩
  constructor
  · exact hid.trans h.id_eq
  · exact hrequest.trans h.request_eq
  · rw [stored_store, List.getLast?_concat]
  · rw [stored_store, List.map_append, List.head?_append, h.first, Option.some_or]
  · rw [stored_store, List.map_append]
    apply h.chain.append (.singleton _)
    intro current hcurrent target htarget
    rw [List.getLast?_map, h.last] at hcurrent
    cases hcurrent
    cases htarget
    exact hstate
  · intro result hresult hcompleted
    exact (hdelivered result hresult hcompleted).store session'

theorem meets_transition {targetState : ContinuityState} {result : Option ContinuityResult}
    (h : Holds continuityId request past session)
    (hvalid : session.state.isValidTransition targetState = true)
    (hdelivered : ∀ r, result.or session.result = some r → r.transferCompleted = true →
      Delivered request past)
    (hpost : ∀ session', session' = { session with
        state := targetState, result := result.or session.result } →
      Holds continuityId request (past ++ [⟨.store session', ()⟩]) session' →
      post (past ++ [⟨.store session', ()⟩]) (.ok session')) :
    Program.Meets (Starts continuityId request) post past
      (transition session targetState result) := by
  have hlive : session.state.isTerminal = false := by
    by_contra hterminal
    have hnone := ContinuityState.not_isValidTransition_of_isTerminal
      (Bool.eq_true_of_not_eq_false hterminal) targetState
    rw [hvalid] at hnone
    cases hnone
  rw [transition, if_pos hvalid]
  exact meets_rebuild h hlive rfl rfl (Or.inr hvalid) hdelivered (hpost _ rfl)

theorem isValidTransition_failed {state : ContinuityState} (h : state.isTerminal = false) :
    state.isValidTransition .failed = true := by
  cases state <;> first | rfl | cases h

theorem consistent_of_failed {reason : String} (hverified : ¬VerifiedSuccess past)
    (hstate : session.state = .failed)
    (hresult : session.result = some { outcome := .failed, reason := reason }) :
    Consistent past session := by
  refine ⟨_, hresult, ?_⟩
  simp [hstate, hverified]

theorem verifiedSuccess_concat {e : Event (Answer Snapshot)} :
    VerifiedSuccess (past ++ [e]) ↔ VerifiedSuccess past ∨ VerifiedSuccess [e] := by
  simp only [VerifiedSuccess, List.mem_append, or_and_right, exists_or]

theorem verifiedSuccess_other {e : Event (Answer Snapshot)} (h : isContinueWork e = false) :
    VerifiedSuccess (past ++ [e]) ↔ VerifiedSuccess past := by
  rw [verifiedSuccess_concat]
  apply or_iff_left
  rintro ⟨portableWork, sourceDeviceId, continuityId, targetUrl, resp, hmem, -⟩
  rw [List.mem_singleton] at hmem
  rw [← hmem] at h
  cases h

theorem verifiedSuccess_continueWork {portableWork : Dict PyValue}
    {sourceDeviceId continuityId : String} {targetUrl : Option String}
    {answer : Except Exc ContinuationResponse} :
    VerifiedSuccess ([⟨.continueWork portableWork sourceDeviceId continuityId targetUrl, answer⟩] :
        Past Snapshot)
      ↔ ∃ resp, answer = .ok resp ∧ resp.outcome = .verifiedSuccess := by
  constructor
  · rintro ⟨_, _, _, _, resp, hmem, houtcome⟩
    cases List.mem_singleton.mp hmem
    exact ⟨resp, rfl, houtcome⟩
  · rintro ⟨resp, rfl, houtcome⟩
    exact ⟨_, _, _, _, resp, List.mem_cons_self, houtcome⟩

@[simp] theorem verifiedSuccess_store (past : Past Snapshot) (session : ContinuitySession) :
    VerifiedSuccess (past ++ [⟨.store session, ()⟩]) ↔ VerifiedSuccess past :=
  verifiedSuccess_other rfl

/-- Moving on to the next stage changes the state of the session and nothing else. -/
structure Advances (past : Past Snapshot) (session : ContinuitySession)
    (targetState : ContinuityState) (past' : Past Snapshot) (session' : ContinuitySession) :
    Prop where
  state : session'.state = targetState
  target : session'.target = session.target
  result : session'.result = session.result
  calls : calls past' = calls past
  selected : ∀ candidate, Selected past candidate → Selected past' candidate
  verified : VerifiedSuccess past' ↔ VerifiedSuccess past
  settled : Settled past → Settled past'

theorem Advances.cleared {targetState : ContinuityState} {past' : Past Snapshot}
    (h : Advances past session targetState past' session')
    (hcleared : Cleared past candidate peerId done) : Cleared past' candidate peerId done :=
  ⟨h.selected candidate hcleared.selected, h.calls ▸ hcleared.calls, hcleared.passes⟩

theorem meets_advance {targetState : ContinuityState} (h : Holds continuityId request past session)
    (hvalid : session.state.isValidTransition targetState = true)
    (hpost : ∀ past' session', Holds continuityId request past' session' →
      Advances past session targetState past' session' → post past' (.ok session')) :
    Program.Meets (Starts continuityId request) post past
      (transition session targetState none) := by
  apply meets_transition h hvalid
  · rw [Option.none_or]
    exact h.delivered
  rintro session' rfl hholds
  exact hpost _ _ hholds ⟨rfl, rfl, rfl, calls_store _ _, fun _ hselected => hselected.append _,
    verifiedSuccess_store _ _, fun hsettled => hsettled.store _⟩

/-- What holds of a run that fails: Zarya has not reported a success, and the work was handed over
if it could be. -/
structure MayFail (past : Past Snapshot) : Prop where
  unverified : ¬VerifiedSuccess past
  settled : Settled past

/-- **Failing** ends the run from any live session. -/
theorem meets_fail {reason : String} (h : Holds continuityId request past session)
    (hlive : session.state.isTerminal = false) (hfails : MayFail past)
    (hpost : ∀ past session', Final continuityId request past session' → post past (.ok session')) :
    Program.Meets (Starts continuityId request) post past (fail session reason) := by
  apply meets_transition h (isValidTransition_failed hlive)
  · intro result hresult hcompleted
    cases hresult
    cases hcompleted
  · rintro session' rfl hholds
    apply hpost
    refine ⟨hholds, rfl, ?_, hfails.settled.store _⟩
    exact consistent_of_failed ((verifiedSuccess_store _ _).not.mpr hfails.unverified) rfl rfl

/-! ### The stages -/

/-- A stage ends the run, or it leaves a live session that meets `next`. -/
def StageEnds (continuityId : String) (request : ContinuityRequest)
    (next : Past Snapshot → ContinuitySession → Prop) (past : Past Snapshot)
    (result : Except Exc ContinuitySession) : Prop :=
  ∃ session, result = .ok session ∧ (Final continuityId request past session
    ∨ session.state.isTerminal = false ∧ next past session)

def Returns (continuityId : String) (request : ContinuityRequest) (past : Past Snapshot)
    (result : Except Exc ContinuitySession) : Prop :=
  ∃ session, result = .ok session ∧ Final continuityId request past session

theorem meets_stage {next : Past Snapshot → ContinuitySession → Prop}
    {stage : Script Snapshot ContinuitySession}
    {rest : ContinuitySession → Script Snapshot ContinuitySession}
    (hstage : Program.Meets (Starts continuityId request) (StageEnds continuityId request next) past
      stage)
    (hrest : ∀ past session, next past session →
      Program.Meets (Starts continuityId request) (Returns continuityId request) past
        (rest session)) :
    Program.Meets (Starts continuityId request) (Returns continuityId request) past
      (stage >>= fun session => unlessTerminal session rest) := by
  apply Program.meets_bind
  apply hstage.mono
  rintro past result ⟨session, rfl, hfinal | ⟨hlive, hnext⟩⟩
  · change Program.Meets _ _ past (unlessTerminal session rest)
    rw [unlessTerminal, if_pos hfinal.terminal]
    exact ⟨session, rfl, hfinal⟩
  · change Program.Meets _ _ past (unlessTerminal session rest)
    rw [unlessTerminal, hlive, if_neg Bool.false_ne_true]
    exact hrest past session hnext

theorem stageEnds_of_final {next : Past Snapshot → ContinuitySession → Prop} (past : Past Snapshot)
    (session : ContinuitySession) (h : Final continuityId request past session) :
    StageEnds continuityId request next past (.ok session) := ⟨session, rfl, Or.inl h⟩

/-- An operation that stores nothing and transfers nothing leaves the session in hand. -/
theorem Holds.other (h : Holds continuityId request past session) {e : Event (Answer Snapshot)}
    (hstored : stored? e = none) (htransfer : isTransfer e = false) :
    Holds continuityId request (past ++ [e]) session := by
  have hsame := stored_other past hstored
  have htransfers := transfers_other past htransfer
  refine ⟨h.id_eq, h.request_eq, hsame ▸ h.last, hsame ▸ h.first, hsame ▸ h.chain, ?_⟩
  intro result hresult hcompleted
  obtain ⟨peerId, done, hpaths, hpasses, hdone⟩ := h.delivered result hresult hcompleted
  exact ⟨peerId, done, hpaths, hpasses, htransfers.trans hdone⟩

/-- Without a result there is nothing to be delivered. -/
theorem Holds.transfer (h : Holds continuityId request past session)
    (hresult : session.result = none) (peerId artifactPath : String)
    (answer : Except Exc FluxTransferResponse) :
    Holds continuityId request (past ++ [⟨.transfer peerId artifactPath, answer⟩]) session := by
  have hsame : stored (past ++ [⟨.transfer peerId artifactPath, answer⟩]) = stored past :=
    stored_other past rfl
  refine ⟨h.id_eq, h.request_eq, hsame ▸ h.last, hsame ▸ h.first, hsame ▸ h.chain, ?_⟩
  intro result hsome
  rw [hresult] at hsome
  cases hsome

theorem not_verifiedSuccess_of_calls (h : ∀ e ∈ calls past, isContinueWork e = false) :
    ¬VerifiedSuccess past := by
  rintro ⟨portableWork, sourceDeviceId, continuityId, targetUrl, resp, hmem, -⟩
  have hcall := h _ (List.mem_filter.mpr ⟨hmem, rfl⟩)
  cases hcall

theorem mayFail_of_calls (h : ∀ e ∈ calls past, isGetRecord e = true) : MayFail past := by
  constructor
  · apply not_verifiedSuccess_of_calls
    intro e he
    have hrecord := h e he
    match e with
    | ⟨.getRecord _, _⟩ => rfl
    | ⟨.continueWork _ _ _ _, _⟩ => cases hrecord
    | ⟨.transfer _ _, _⟩ | ⟨.createSnapshot, _⟩ | ⟨.navigate _ _, _⟩ | ⟨.enter _, _⟩
      | ⟨.store _, _⟩ => rfl
  · intro htransfers
    exfalso
    apply htransfers
    rw [transfers_eq_filter_calls]
    apply List.filter_eq_nil_iff.mpr
    intro e he htransfer
    have hrecord := h e he
    match e with
    | ⟨.transfer _ _, _⟩ => cases hrecord
    | ⟨.getRecord _, _⟩ | ⟨.continueWork _ _ _ _, _⟩ | ⟨.createSnapshot, _⟩ | ⟨.navigate _ _, _⟩
      | ⟨.enter _, _⟩ | ⟨.store _, _⟩ => cases htransfer

theorem mayFail_of_no_calls (h : calls past = []) : MayFail past := by
  apply mayFail_of_calls
  rw [h]
  exact fun e he => absurd he List.not_mem_nil

theorem Cleared.not_verifiedSuccess (h : Cleared past candidate peerId done) :
    ¬VerifiedSuccess past := by
  apply not_verifiedSuccess_of_calls
  obtain ⟨trustRecord, -, hcalls⟩ := h.calls
  intro e he
  rw [hcalls, List.mem_cons, transferCalls, List.mem_map] at he
  rcases he with rfl | ⟨transferred, -, rfl⟩
  · rfl
  · rfl

theorem meets_validate (h : Holds continuityId request past session)
    (hstate : session.state = .validating) (hresult : session.result = none)
    (hcalls : calls past = []) :
    Program.Meets (Starts continuityId request)
      (StageEnds continuityId request fun past' session' =>
        Holds continuityId request past' session' ∧ session'.state = .validating
          ∧ session'.result = none ∧ calls past' = [] ∧ Valid request) past (validate session) := by
  have hlive : session.state.isTerminal = false := by rw [hstate]; rfl
  have hfails := mayFail_of_no_calls hcalls
  rw [validate]
  simp only [h.request_eq]
  split_ifs with hwork hid hintent
  · exact meets_fail h hlive hfails stageEnds_of_final
  · exact meets_fail h hlive hfails stageEnds_of_final
  · apply meets_transition h (by rw [hstate]; rfl)
    · intro result hresult hcompleted
      cases hresult
      cases hcompleted
    · rintro session' rfl hholds
      apply stageEnds_of_final
      refine ⟨hholds, rfl, ⟨_, rfl, ?_⟩, hfails.settled.store _⟩
      simp [hfails.unverified]
  · exact ⟨session, rfl, Or.inr ⟨hlive, h, hstate, hresult, hcalls, hwork, hid, hintent⟩⟩

theorem makeTarget_deviceId {errorText : PyValue → PyValue → String}
    {selected : NavigationCandidate}
    (h : makeTarget errorText selected = .ok target) : target.deviceId = selected.nodeId := by
  simp only [makeTarget] at h
  split at h
  · cases h
    rfl
  · cases h

/-- A selection leaves the target of the selected candidate in the session. -/
theorem meets_selectTarget {errorText : PyValue → PyValue → String} (hvalid : Valid request)
    (h : Holds continuityId request past session) (hstate : session.state = .targetSelected)
    (hresult : session.result = none) (hcalls : calls past = []) :
    Program.Meets (Starts continuityId request)
      (StageEnds continuityId request fun past' session' =>
        Holds continuityId request past' session' ∧ session'.state = .targetSelected
          ∧ session'.result = none ∧ calls past' = []
          ∧ ∃ candidate target, Selected past' candidate ∧ session'.target = some target
            ∧ target.deviceId = candidate.nodeId)
      past (selectTarget errorText session) := by
  have hlive : session.state.isTerminal = false := by rw [hstate]; rfl
  rw [selectTarget]
  apply Program.meets_tryCatch
  apply Program.meets_bind
  refine ⟨⟨h.live hlive, hvalid, hcalls⟩, fun answer => ?_⟩
  have hsnapshot := h.other (e := ⟨.createSnapshot, answer⟩) rfl rfl
  replace hcalls : calls (past ++ [⟨.createSnapshot, answer⟩]) = [] :=
    (calls_other past rfl).trans hcalls
  cases answer with
  | error exc => exact meets_fail hsnapshot hlive (mayFail_of_no_calls hcalls) stageEnds_of_final
  | ok snapshot =>
      apply Program.meets_bind
      refine ⟨⟨hsnapshot.live hlive, hvalid, hcalls⟩, fun answer => ?_⟩
      have hnavigated := hsnapshot.other (e := ⟨.navigate _ snapshot, answer⟩) rfl rfl
      replace hcalls : calls (past ++ [⟨.createSnapshot, .ok snapshot⟩]
          ++ [⟨.navigate ⟨"zarya.work.continue", session.request.targetConstraints⟩ snapshot,
            answer⟩]) = [] := (calls_other _ rfl).trans hcalls
      cases answer with
      | error exc =>
          exact meets_fail hnavigated hlive (mayFail_of_no_calls hcalls) stageEnds_of_final
      | ok navResult =>
          obtain ⟨selected, reason⟩ := navResult
          cases selected with
          | none =>
              exact meets_fail hnavigated hlive (mayFail_of_no_calls hcalls) stageEnds_of_final
          | some candidate =>
              apply Program.meets_bind
              cases htarget : makeTarget errorText candidate with
              | error exc =>
                  exact meets_fail hnavigated hlive (mayFail_of_no_calls hcalls) stageEnds_of_final
              | ok target =>
                  change Program.Meets _ _ _ (rebuild { session with target := some target })
                  apply meets_rebuild hnavigated hlive
                  · rfl
                  · rfl
                  · exact Or.inl rfl
                  · exact hnavigated.delivered
                  · intro hholds
                    refine ⟨_, rfl,
                      Or.inr ⟨hlive, hholds, hstate, hresult, ?_, candidate, target, ?_, rfl,
                        makeTarget_deviceId htarget⟩⟩
                    · rw [calls_store, hcalls]
                    · exact ⟨_, snapshot, reason,
                        List.mem_append_left _ (List.mem_append_right _ List.mem_cons_self)⟩

/-- The address that artifacts are sent to. -/
def peerOf (target : ContinuityTarget) : String := strOr target.fluxPeerId target.nodeId

/-- A verified target is that of a selected candidate whose record is trusted. -/
theorem meets_verifyTrust (hvalid : Valid request) (h : Holds continuityId request past session)
    (hstate : session.state = .authorized) (hresult : session.result = none)
    (hcalls : calls past = []) (hselected : Selected past candidate)
    (htarget : session.target = some target) (hdevice : target.deviceId = candidate.nodeId) :
    Program.Meets (Starts continuityId request)
      (StageEnds continuityId request fun past' session' =>
        Holds continuityId request past' session' ∧ session'.state = .authorized
          ∧ session'.result = none
          ∧ ∃ target, session'.target = some target ∧ Cleared past' candidate (peerOf target) [])
      past (verifyTrust session) := by
  have hlive : session.state.isTerminal = false := by rw [hstate]; rfl
  rw [verifyTrust, htarget]
  apply Program.meets_tryCatch
  apply Program.meets_bind
  refine ⟨⟨h.live hlive, hvalid, hcalls, candidate, hselected, hdevice⟩, fun answer => ?_⟩
  have hasked := h.other (e := ⟨.getRecord target.deviceId, answer⟩) rfl rfl
  have hcalled : calls (past ++ [⟨.getRecord target.deviceId, answer⟩])
      = [trustCall candidate.nodeId answer] := by
    rw [calls_call past rfl, hcalls, hdevice]
    rfl
  have hfails : MayFail (past ++ [⟨.getRecord target.deviceId, answer⟩]) := by
    apply mayFail_of_calls
    intro e he
    rw [hcalled, List.mem_singleton] at he
    rw [he]
    rfl
  cases answer with
  | error exc => exact meets_fail hasked hlive hfails stageEnds_of_final
  | ok found =>
      cases found with
      | none => exact meets_fail hasked hlive hfails stageEnds_of_final
      | some trustRecord =>
          change Program.Meets _ _ _ (ite _ _ (ite _ _ _))
          split_ifs with hunknown hstatus
          · exact meets_fail hasked hlive hfails stageEnds_of_final
          · exact meets_fail hasked hlive hfails stageEnds_of_final
          · apply meets_rebuild hasked hlive
            · rfl
            · rfl
            · exact Or.inl rfl
            · exact hasked.delivered
            · intro hholds
              refine ⟨_, rfl, Or.inr ⟨hlive, hholds, hstate, hresult, _, rfl, ?_⟩⟩
              constructor
              · exact (hselected.append _).append _
              · refine ⟨trustRecord, not_not.mp hstatus, ?_⟩
                rw [calls_store, hcalled]
                rfl
              · exact fun transferred hmem => absurd hmem List.not_mem_nil

theorem meets_prepareArtifacts (h : Holds continuityId request past session)
    (hstate : session.state = .preparing) (hresult : session.result = none)
    (htarget : session.target = some target)
    (hcleared : Cleared past candidate (peerOf target) []) :
    Program.Meets (Starts continuityId request)
      (StageEnds continuityId request fun past' session' =>
        Holds continuityId request past' session' ∧ session'.state = .preparing
          ∧ session'.result = none ∧ session'.target = some target
          ∧ Cleared past' candidate (peerOf target) [])
      past (prepareArtifacts session) := by
  have hlive : session.state.isTerminal = false := by rw [hstate]; rfl
  exact ⟨session, rfl, Or.inr ⟨hlive, h, hstate, hresult, htarget, hcleared⟩⟩

theorem Cleared.transfer {artifactPath : String} {response : FluxTransferResponse}
    (h : Cleared past candidate peerId done) (hpasses : Passes response) :
    Cleared (past ++ [⟨.transfer peerId artifactPath, .ok response⟩]) candidate peerId
      (done ++ [(artifactPath, response)]) := by
  constructor
  · exact h.selected.append _
  · obtain ⟨trustRecord, htrusted, hcalls⟩ := h.calls
    refine ⟨trustRecord, htrusted, ?_⟩
    rw [calls_call past rfl, hcalls, transferCalls, transferCalls, List.map_append]
    rfl
  · intro transferred hmem
    rw [List.mem_append, List.mem_singleton] at hmem
    rcases hmem with hmem | rfl
    · exact h.passes transferred hmem
    · exact hpasses

/-- A transfer that does not pass ends the run. -/
theorem Cleared.mayFail_transfer {artifactPath : String}
    (h : Cleared past candidate peerId done) {answer : Except Exc FluxTransferResponse}
    (hanswer : ∀ response, answer = .ok response → ¬Passes response) :
    MayFail (past ++ [⟨.transfer peerId artifactPath, answer⟩]) := by
  constructor
  · rw [verifiedSuccess_other rfl]
    exact h.not_verifiedSuccess
  · intro _ hpass
    obtain ⟨response, hok, hpasses⟩ := hpass peerId artifactPath answer
      (List.mem_append_right _ List.mem_cons_self)
    exact absurd hpasses (hanswer response hok)

/-- **The transfer loop.** `done` are the transfers so far, `rest` the artifacts to come. -/
theorem meets_transferEach (hvalid : Valid request) (hlive : session.state.isTerminal = false)
    (hresult : session.result = none)
    (hfail : ∀ past session', Final continuityId request past session' → post past (.ok session'))
    (hdone : ∀ past done last, Cleared past candidate (peerOf target) done →
      done.map Prod.fst = request.artifactPaths →
      Holds continuityId request past { session with transferId := last } →
      post past (.ok { session with transferId := last }))
    (hraise : ∀ past exc, Holds continuityId request past session → MayFail past →
      post past (.error exc))
    (rest : List String) : ∀ (past : Past Snapshot) (last : Option String)
      (done : List (String × FluxTransferResponse)), Holds continuityId request past session →
      Cleared past candidate (peerOf target) done →
      done.map Prod.fst ++ rest = request.artifactPaths →
      Program.Meets (Starts continuityId request) post past
        (transferEach session target last rest) := by
  induction rest with
  | nil =>
      intro past last done h hcleared hpaths
      rw [List.append_nil] at hpaths
      apply meets_rebuild h hlive
      · rfl
      · rfl
      · exact Or.inl rfl
      · exact h.delivered
      · intro hholds
        exact hdone _ done last (hcleared.store _) hpaths hholds
  | cons artifactPath rest ih =>
      intro past last done h hcleared hpaths
      apply Program.meets_bind
      refine ⟨⟨h.live hlive, hvalid, candidate, done, hcleared, ?_⟩, fun answer => ?_⟩
      · rw [← hpaths]
        exact ⟨rest, by simp⟩
      have hasked := h.transfer hresult (peerOf target) artifactPath answer
      cases answer with
      | error exc =>
          refine hraise _ exc hasked (hcleared.mayFail_transfer ?_)
          intro response hok
          cases hok
      | ok response =>
          change Program.Meets _ _ _ (ite _ _ _)
          split_ifs with hstatus
          · refine meets_fail hasked hlive (hcleared.mayFail_transfer ?_) hfail
            rintro _ ⟨rfl⟩ hpasses
            exact hstatus.elim hpasses.1 hpasses.2
          · rw [not_or] at hstatus
            apply ih _ _ _ hasked (hcleared.transfer hstatus)
            rw [List.map_append, List.append_assoc]
            exact hpaths

/-- The transfers of a stage that goes on cover every artifact. -/
theorem meets_transferArtifacts (hvalid : Valid request)
    (h : Holds continuityId request past session) (hstate : session.state = .transferring)
    (hresult : session.result = none)
    (htarget : session.target = some target)
    (hcleared : Cleared past candidate (peerOf target) []) :
    Program.Meets (Starts continuityId request)
      (StageEnds continuityId request fun past' session' =>
        Holds continuityId request past' session' ∧ session'.state = .transferring
          ∧ session'.target = some target
          ∧ ∃ done, Cleared past' candidate (peerOf target) done
            ∧ done.map Prod.fst = request.artifactPaths)
      past (transferArtifacts session) := by
  have hlive : session.state.isTerminal = false := by rw [hstate]; rfl
  rw [transferArtifacts, htarget]
  simp only [h.request_eq]
  split_ifs with hnone
  · have hdelivered : Delivered request past := by
      refine ⟨peerOf target, [], hnone.symm, fun _ hmem => absurd hmem List.not_mem_nil, ?_⟩
      obtain ⟨trustRecord, -, hcalls⟩ := hcleared.calls
      rw [transfers_eq_filter_calls, hcalls]
      rfl
    apply meets_rebuild h hlive
    · rfl
    · exact h.request_eq.symm
    · exact Or.inl rfl
    · exact fun _ _ _ => hdelivered
    · intro hholds
      exact ⟨_, rfl, Or.inr ⟨hlive, hholds, hstate, rfl, [], hcleared.store _, hnone.symm⟩⟩
  · apply Program.meets_tryCatch
    refine meets_transferEach hvalid hlive hresult ?_ ?_ ?_ _ past none [] h hcleared rfl
    · exact stageEnds_of_final
    · intro past done last hcleared hpaths hholds
      exact ⟨_, rfl, Or.inr ⟨hlive, hholds, hstate, htarget, done, hcleared, hpaths⟩⟩
    · intro past exc hholds hfails
      exact meets_fail hholds hlive hfails stageEnds_of_final

theorem Cleared.transfers_eq (h : Cleared past candidate peerId done) :
    transfers past = transferCalls peerId done := by
  obtain ⟨trustRecord, -, hcalls⟩ := h.calls
  rw [transfers_eq_filter_calls, hcalls]
  change (transferCalls peerId done).filter isTransfer = transferCalls peerId done
  apply List.filter_eq_self.mpr
  intro e he
  obtain ⟨transferred, -, rfl⟩ := List.mem_map.mp he
  rfl

theorem Cleared.delivered (h : Cleared past candidate peerId done)
    (hpaths : done.map Prod.fst = request.artifactPaths) : Delivered request past :=
  ⟨peerId, done, hpaths, h.passes, h.transfers_eq⟩

theorem meets_continueOnTarget (hvalid : Valid request)
    (h : Holds continuityId request past session) (hstate : session.state = .continuing)
    (htarget : session.target = some target)
    (hcleared : Cleared past candidate (peerOf target) done)
    (hpaths : done.map Prod.fst = request.artifactPaths) :
    Program.Meets (Starts continuityId request)
      (StageEnds continuityId request fun past' session' =>
        Holds continuityId request past' session' ∧ session'.state = .continuing
          ∧ Settled past' ∧ ∃ resp, session'.result = some (continuationResult resp)
            ∧ (VerifiedSuccess past' ↔ resp.outcome = .verifiedSuccess))
      past (continueOnTarget session) := by
  have hlive : session.state.isTerminal = false := by rw [hstate]; rfl
  rw [continueOnTarget, htarget]
  apply Program.meets_tryCatch
  apply Program.meets_bind
  have hargs : session.request.portableWork = request.portableWork
      ∧ session.request.sourceDeviceId = request.sourceDeviceId
      ∧ session.continuityId = continuityId := by
    rw [h.request_eq, h.id_eq]
    exact ⟨rfl, rfl, rfl⟩
  refine ⟨⟨h.live hlive, hvalid, hargs, candidate, peerOf target, done, hcleared, hpaths⟩,
    fun answer => ?_⟩
  have hcontinued := h.other (e := ⟨.continueWork session.request.portableWork
    session.request.sourceDeviceId session.continuityId (orElse target.zaryaUrl none),
      answer⟩) rfl rfl
  have hsettled : Settled (past ++ [⟨.continueWork session.request.portableWork
      session.request.sourceDeviceId session.continuityId (orElse target.zaryaUrl none),
        answer⟩]) :=
    fun _ _ => ⟨_, List.mem_append_right _ List.mem_cons_self, rfl⟩
  cases answer with
  | error exc =>
      have hverified : ¬VerifiedSuccess (past ++ [⟨.continueWork session.request.portableWork
          session.request.sourceDeviceId session.continuityId (orElse target.zaryaUrl none),
          .error exc⟩]) := by
        rw [verifiedSuccess_concat, verifiedSuccess_continueWork]
        rintro (hbefore | ⟨resp, hok, -⟩)
        · exact hcleared.not_verifiedSuccess hbefore
        · cases hok
      exact meets_fail hcontinued hlive ⟨hverified, hsettled⟩ stageEnds_of_final
  | ok resp =>
      change Program.Meets _ _ _ (rebuild { session with
        target := some target
        operationId := some resp.operationId
        result := some (continuationResult resp) })
      have hdelivered := hcleared.delivered hpaths
      apply meets_rebuild hcontinued hlive
      · rfl
      · rfl
      · exact Or.inl rfl
      · intro _ _ _
        obtain ⟨peerId, done, hpaths, hpasses, hdone⟩ := hdelivered
        exact ⟨peerId, done, hpaths, hpasses, (transfers_other past rfl).trans hdone⟩
      · intro hholds
        refine ⟨_, rfl, Or.inr ⟨hlive, hholds, hstate, hsettled.store _, resp, rfl, ?_⟩⟩
        rw [verifiedSuccess_store, verifiedSuccess_concat, verifiedSuccess_continueWork,
          or_iff_right hcleared.not_verifiedSuccess]
        simp

theorem finalOutcome_value (outcome : VerificationOutcome) :
    finalOutcome (some outcome.value) = mapZaryaOutcome outcome := by
  cases outcome <;> rfl

theorem meets_verifyResult (h : Holds continuityId request past session)
    (hstate : session.state = .verifying) (hsettled : Settled past) {resp : ContinuationResponse}
    (hresult : session.result = some (continuationResult resp))
    (hverified : VerifiedSuccess past ↔ resp.outcome = .verifiedSuccess) :
    Program.Meets (Starts continuityId request) (Returns continuityId request) past
      (verifyResult session) := by
  have hdelivered : Delivered request past := h.delivered _ hresult rfl
  have hfinish {state : ContinuityState}
      (hvalid : session.state.isValidTransition state = true) (hterminal : state.isTerminal = true)
      (hstates : (state = .completed ↔ mapZaryaOutcome resp.outcome = .success)
        ∧ (state = .unknown ↔ mapZaryaOutcome resp.outcome = .unknown)
        ∧ (state = .unsupported ↔ mapZaryaOutcome resp.outcome = .unsupported)
        ∧ (state = .failed ↔ mapZaryaOutcome resp.outcome = .failed)
        ∧ (state = .completed ↔ resp.outcome = .verifiedSuccess)) :
      Program.Meets (Starts continuityId request) (Returns continuityId request) past
        (transition session state (some (continuationResult resp))) := by
    apply meets_transition h hvalid
    · exact fun _ _ _ => hdelivered
    · rintro session' rfl hholds
      refine ⟨_, rfl, hholds, hterminal, ⟨_, rfl, hstates.1, hstates.2.1, hstates.2.2.1,
        hstates.2.2.2.1, ?_⟩, hsettled.store _⟩
      rw [verifiedSuccess_store, hverified]
      exact hstates.2.2.2.2
  have hresult' : { continuationResult resp with
      outcome := finalOutcome (continuationResult resp).zaryaOutcome }
        = continuationResult resp := by
    rw [continuationResult, finalOutcome_value]
  have hmapped : finalOutcome (continuationResult resp).zaryaOutcome
      = mapZaryaOutcome resp.outcome := finalOutcome_value resp.outcome
  rw [verifyResult, hresult]
  simp only [hresult']
  cases houtcome : resp.outcome with
  | verifiedSuccess =>
      simp only [houtcome, mapZaryaOutcome] at hmapped
      rw [if_pos hmapped]
      apply hfinish
      · rw [hstate]; rfl
      · rfl
      · simp [houtcome, mapZaryaOutcome]
  | verifiedFailure =>
      simp only [houtcome, mapZaryaOutcome] at hmapped
      rw [if_neg (by simp [hmapped]), if_pos hmapped]
      apply hfinish
      · rw [hstate]; rfl
      · rfl
      · simp [houtcome, mapZaryaOutcome]
  | unknown =>
      simp only [houtcome, mapZaryaOutcome] at hmapped
      rw [if_neg (by simp [hmapped]), if_neg (by simp [hmapped])]
      apply hfinish
      · rw [hstate]; rfl
      · rfl
      · simp [houtcome, mapZaryaOutcome]

/-! ### The whole run -/

variable {errorText : PyValue → PyValue → String}

/-- A stage of the pipeline: the state moves on, the stage does its work, and the rest follows. -/
theorem meets_next {next : Past Snapshot → ContinuitySession → Prop} {targetState : ContinuityState}
    {stage rest : ContinuitySession → Script Snapshot ContinuitySession}
    (h : Holds continuityId request past session)
    (hvalid : session.state.isValidTransition targetState = true)
    (hstage : ∀ past' session', Holds continuityId request past' session' →
      Advances past session targetState past' session' →
      Program.Meets (Starts continuityId request) (StageEnds continuityId request next) past'
        (stage session'))
    (hrest : ∀ past session, next past session →
      Program.Meets (Starts continuityId request) (Returns continuityId request) past
        (rest session)) :
    Program.Meets (Starts continuityId request) (Returns continuityId request) past (do
      let session ← transition session targetState none
      let session ← stage session
      unlessTerminal session rest) := by
  apply Program.meets_bind
  apply meets_advance h hvalid
  intro past' session' hholds hmoved
  exact meets_stage (hstage past' session' hholds hmoved) hrest

theorem meets_runPipeline (h : Holds continuityId request past session)
    (hstate : session.state = .requested) (hresult : session.result = none)
    (hcalls : calls past = []) :
    Program.Meets (Starts continuityId request) (Returns continuityId request) past
      (runPipeline errorText session) := by
  apply meets_next h (by rw [hstate]; rfl)
  · intro past session h hmoved
    exact meets_validate h hmoved.state (hmoved.result.trans hresult) (hmoved.calls.trans hcalls)
  rintro past session ⟨h, hstate, hresult, hcalls, hvalid⟩
  apply meets_next h (by rw [hstate]; rfl)
  · intro past session h hmoved
    exact meets_selectTarget hvalid h hmoved.state (hmoved.result.trans hresult)
      (hmoved.calls.trans hcalls)
  rintro past session ⟨h, hstate, hresult, hcalls, candidate, target, hselected, htarget, hdevice⟩
  apply meets_next h (by rw [hstate]; rfl)
  · intro past session h hmoved
    exact meets_verifyTrust hvalid h hmoved.state (hmoved.result.trans hresult)
      (hmoved.calls.trans hcalls) (hmoved.selected candidate hselected)
      (hmoved.target.trans htarget) hdevice
  rintro past session ⟨h, hstate, hresult, target, htarget, hcleared⟩
  apply meets_next h (by rw [hstate]; rfl)
  · intro past session h hmoved
    exact meets_prepareArtifacts h hmoved.state (hmoved.result.trans hresult)
      (hmoved.target.trans htarget) (hmoved.cleared hcleared)
  rintro past session ⟨h, hstate, hresult, htarget, hcleared⟩
  apply meets_next h (by rw [hstate]; rfl)
  · intro past session h hmoved
    exact meets_transferArtifacts hvalid h hmoved.state (hmoved.result.trans hresult)
      (hmoved.target.trans htarget) (hmoved.cleared hcleared)
  rintro past session ⟨h, hstate, htarget, done, hcleared, hpaths⟩
  apply Program.meets_bind
  apply meets_advance h (by rw [hstate]; rfl)
  intro past' session' h' hmoved'
  replace hcleared := hmoved'.cleared hcleared
  apply meets_next h' (by rw [hmoved'.state]; rfl)
  · intro past'' session'' h'' hmoved
    have htarget'' : session''.target = some target := by
      calc session''.target = session'.target := hmoved.target
        _ = session.target := hmoved'.target
        _ = some target := htarget
    exact meets_continueOnTarget hvalid h'' hmoved.state htarget'' (hmoved.cleared hcleared) hpaths
  rintro past session ⟨h, hstate, hsettled, resp, hresult, hverified⟩
  apply Program.meets_bind
  apply meets_advance h (by rw [hstate]; rfl)
  intro past session h hmoved
  exact meets_verifyResult h hmoved.state (hmoved.settled hsettled) (hmoved.result.trans hresult)
    (hmoved.verified.trans hverified)

/-- **One run.** Every operation that `request_continuity` starts is in its place, and the run ends
in a final session unless it is refused. -/
theorem meets_requestContinuity :
    Program.Meets (Starts continuityId request) (Ends continuityId request) ([] : Past Snapshot)
      (requestContinuity errorText continuityId request) := by
  apply Program.meets_bind
  refine ⟨⟨rfl, rfl⟩, fun answer => ?_⟩
  cases answer with
  | error exc => exact Or.inl ⟨exc, rfl, rfl⟩
  | ok =>
      have h : Holds continuityId request
          ([⟨.enter (.new continuityId request), .ok ()⟩] : Past Snapshot)
          (.new continuityId request) := by
        refine ⟨rfl, rfl, rfl, rfl, .singleton _, ?_⟩
        intro result hresult
        cases hresult
      apply Program.meets_tryCatch
      apply (meets_runPipeline h rfl rfl rfl).mono
      rintro past result ⟨session, rfl, hfinal⟩
      exact Or.inr ⟨session, rfl, hfinal⟩

end Continuity

end Shyam
