import Shyam.Proof.ContinuityPipeline

/-!
# One call of request_continuity

What a run ends in, which calls it makes, and when it takes its artifacts for delivered.
-/

namespace Shyam

open Python Interaction Continuity

variable {Snapshot : Type} {continuityId : String} {request : ContinuityRequest}
  {past : Past Snapshot}

/-! ### The session map -/

theorem stored?_cases {e : Event (Answer Snapshot)} {session : ContinuitySession}
    (h : stored? e = some session) : e = ⟨.enter session, .ok ()⟩ ∨ e = ⟨.store session, ()⟩ := by
  obtain ⟨op, answer⟩ := e
  cases op with
  | enter session' =>
      cases answer with
      | error exc => cases h
      | ok => exact Or.inl (by cases h; rfl)
  | store session' => exact Or.inr (by cases h; rfl)
  | createSnapshot | navigate | getRecord | transfer | continueWork => cases h

theorem mem_stored_concat {e : Event (Answer Snapshot)} {session : ContinuitySession}
    (h : stored? e = some session) : session ∈ stored (past ++ [e]) := by
  rw [stored_some past h]
  exact List.mem_append_right _ List.mem_cons_self

/-- A run only stores sessions of its own. -/
theorem stored_of_admitted (h : Program.Admitted (Starts continuityId request) past)
    {session : ContinuitySession} (hmem : session ∈ stored past) :
    session.continuityId = continuityId ∧ session.request = request := by
  obtain ⟨e, he, hstored⟩ := List.mem_filterMap.mp hmem
  obtain ⟨before, after, rfl⟩ := List.append_of_mem he
  have hstarted := h before e after rfl
  rcases stored?_cases hstored with rfl | rfl
  · rw [hstarted.2]
    exact ⟨rfl, rfl⟩
  · exact ⟨hstarted.1, hstarted.2.1⟩

namespace ContinuityService

theorem getSession_record (service : ContinuityService) (e : Event (Answer Snapshot))
    (id : String) :
    (service.record e).getSession id
      = ((stored? e).filter (·.continuityId = id)).or (service.getSession id) := by
  match e with
  | ⟨.enter session, .ok ()⟩ | ⟨.store session, ()⟩ =>
      change (service.sessions.set session.continuityId session).get? id = _
      rw [Dict.get?_set, stored?]
      by_cases h : session.continuityId = id
      · simp [h, Option.filter]
      · simp [h, Ne.symm h, Option.filter, getSession]
  | ⟨.enter _, .error _⟩ | ⟨.createSnapshot, _⟩ | ⟨.navigate _ _, _⟩ | ⟨.getRecord _, _⟩
    | ⟨.transfer _ _, _⟩ | ⟨.continueWork _ _ _ _, _⟩ => rfl

/-- After a run the map holds the session that the run stored last. -/
theorem getSession_after (service : ContinuityService)
    (h : Program.Admitted (Starts continuityId request) past) :
    (service.after past).getSession continuityId
      = (stored past).getLast?.or (service.getSession continuityId) := by
  induction past using List.reverseRecOn with
  | nil => rfl
  | append_singleton past e ih =>
      rw [after, List.foldl_append, List.foldl_cons, List.foldl_nil, getSession_record,
        stored_append]
      change Option.or _ ((service.after past).getSession continuityId) = _
      rw [ih h.of_append]
      cases hstored : stored? e with
      | none => simp [stored, hstored]
      | some session =>
          simp [stored, hstored, Option.filter,
            (stored_of_admitted h (mem_stored_concat hstored)).1]

variable (service : ContinuityService) (collaborators : Collaborators Snapshot)
  (errorText : PyValue → PyValue → String) (continuityId : String) (request : ContinuityRequest)

theorem requestContinuity_admitted : Program.Admitted (Starts continuityId request)
    (service.requestContinuity collaborators errorText continuityId request).1 :=
  meets_requestContinuity.admitted Program.admitted_nil _

theorem requestContinuity_ends : Ends continuityId request
    (service.requestContinuity collaborators errorText continuityId request).1
    (service.requestContinuity collaborators errorText continuityId request).2 :=
  meets_requestContinuity.run _

variable {service continuityId request} in
theorem requestContinuity_final
    (hadmitted : service.admission (.new continuityId request) = .ok ()) :
    ∃ session,
      (service.requestContinuity collaborators errorText continuityId request).2 = .ok session
        ∧ Final continuityId request
          (service.requestContinuity collaborators errorText continuityId request).1 session := by
  obtain ⟨exc, -, hpast⟩ | hfinal :=
    service.requestContinuity_ends collaborators errorText continuityId request
  · exfalso
    have hfirst : [(⟨.enter (.new continuityId request),
        service.admission (.new continuityId request)⟩ : Event (Answer Snapshot))]
        <+: (service.requestContinuity collaborators errorText continuityId request).1 :=
      Program.past_prefix_run _ _ _
    rw [hpast, hadmitted] at hfirst
    obtain ⟨rest, hrest⟩ := hfirst
    cases hrest
  · exact hfinal

/-- The states that a run goes through. A session may be stored again in its state, with its target
or its result. -/
def statesOf (past : Past Snapshot) : List ContinuityState :=
  ((stored past).map ContinuitySession.state).destutter (· ≠ ·)

variable {service continuityId request} in
/-- **A consistent final result.** A call that is not refused returns. Its session is terminal and
is the one in the session map, state and outcome agree with each other and with Zarya, and the
states on the way are a path of the table. -/
theorem requestContinuity_consistent
    (hadmitted : service.admission (.new continuityId request) = .ok ()) :
    let run := service.requestContinuity collaborators errorText continuityId request
    ∃ session result,
      run.2 = .ok session ∧ session.state.isTerminal = true
        ∧ (service.after run.1).getSession continuityId = some session
        ∧ session.result = some result
        ∧ (session.state = .completed ↔ result.outcome = .success)
        ∧ (result.outcome = .success ↔ VerifiedSuccess run.1)
        ∧ (session.state = .unknown ↔ result.outcome = .unknown)
        ∧ (session.state = .unsupported ↔ result.outcome = .unsupported)
        ∧ (session.state = .failed ↔ result.outcome = .failed)
        ∧ (statesOf run.1).head? = some .requested
        ∧ ContinuityState.IsPath (statesOf run.1) ∧ (statesOf run.1).Nodup := by
  intro run
  obtain ⟨session, hreturned, hfinal⟩ :=
    requestContinuity_final collaborators errorText hadmitted
  obtain ⟨result, hresult, hcompleted, hunknown, hunsupported, hfailed, hzarya⟩ := hfinal.consistent
  have hpath := ContinuityState.isPath_destutter hfinal.holds.chain
  refine ⟨session, result, hreturned, hfinal.terminal, ?_, hresult, hcompleted,
    hcompleted.symm.trans hzarya, hunknown, hunsupported, hfailed, ?_, hpath, hpath.nodup⟩
  · rw [getSession_after service (requestContinuity_admitted service collaborators errorText
      continuityId request), hfinal.holds.last, Option.some_or]
  · rw [statesOf, ContinuityState.head?_destutter, hfinal.holds.first]

def draftRequest : ContinuityRequest where
  workId := "w"
  sourceDeviceId := "a"
  portableWork := Dict.empty.set "title" (.str "draft")
  artifactPaths := ["draft.txt"]

/-- Collaborators that select and trust the node `b`. Flux reports the given status. -/
def obliging (status : FluxTransferStatus) : Collaborators Unit := fun _ op =>
  match op with
  | .enter _ => .ok ()
  | .store _ => ()
  | .createSnapshot => .ok ()
  | .navigate _ _ => .ok ⟨some ⟨"b", "zarya", ∅⟩, ""⟩
  | .getRecord nodeId => .ok (some (.new nodeId .trusted .epoch))
  | .transfer _ _ => .ok ⟨"t", status⟩
  | .continueWork _ _ _ _ => .ok ⟨"o", .verifiedSuccess, true, true, ""⟩

def draftRun (status : FluxTransferStatus) : Past Unit × Except Exc ContinuitySession :=
  requestContinuity {} (obliging status) (fun _ _ => "") "c" draftRequest

theorem requestContinuity_consistent_draft :
    ∃ session, (draftRun .completed).2 = .ok session ∧ session.state.isTerminal = true := by
  have hadmitted : admission {} (.new "c" draftRequest) = .ok () := rfl
  obtain ⟨session, -, hreturned, hterminal, -⟩ := requestContinuity_consistent
    (obliging .completed) (fun _ _ => "") hadmitted
  exact ⟨session, hreturned, hterminal⟩

end ContinuityService

/-! ### The calls -/

namespace Continuity

variable {candidate : NavigationCandidate} {peerId : String}
  {done : List (String × FluxTransferResponse)}

theorem Cleared.map_op (h : Cleared past candidate peerId done) :
    (Continuity.calls past).map Event.op
      = .getRecord candidate.nodeId :: (done.map Prod.fst).map (.transfer peerId) := by
  obtain ⟨trustRecord, -, hcalls⟩ := h.calls
  rw [hcalls, List.map_cons, transferCalls, List.map_map, List.map_map]
  rfl

theorem mem_transferCalls {peerId' artifactPath : String}
    {answer : Except Exc FluxTransferResponse}
    (h : (⟨.transfer peerId' artifactPath, answer⟩ : Event (Answer Snapshot))
      ∈ transferCalls peerId done) :
    ∃ response, answer = .ok response ∧ (artifactPath, response) ∈ done := by
  obtain ⟨transferred, hdone, heq⟩ := List.mem_map.mp h
  cases heq
  exact ⟨transferred.2, rfl, hdone⟩

theorem allPass_of_transfers (h : transfers past = transferCalls peerId done)
    (hpasses : ∀ transferred ∈ done, Passes transferred.2) : AllPass past := by
  intro peerId' artifactPath answer hmem
  have htransfer : (⟨.transfer peerId' artifactPath, answer⟩ : Event (Answer Snapshot))
      ∈ transfers past := List.mem_filter.mpr ⟨hmem, rfl⟩
  rw [h] at htransfer
  obtain ⟨response, hok, hdone⟩ := mem_transferCalls htransfer
  exact ⟨response, hok, hpasses _ hdone⟩

theorem Cleared.allPass (h : Cleared past candidate peerId done) : AllPass past :=
  allPass_of_transfers h.transfers_eq h.passes

theorem Cleared.trusted (h : Cleared past candidate peerId done) :
    ∃ candidate trustRecord, Selected past candidate ∧ trustRecord.status = .trusted
      ∧ trustCall candidate.nodeId (.ok (some trustRecord)) ∈ past := by
  obtain ⟨trustRecord, htrusted, hcalls⟩ := h.calls
  refine ⟨candidate, trustRecord, h.selected, htrusted, ?_⟩
  apply List.mem_of_mem_filter (p := isCall)
  rw [← Continuity.calls, hcalls]
  exact List.mem_cons_self

/-- The calls of a run that goes through: the trust check, every artifact in its order, the
hand-over. -/
def callTrace (continuityId : String) (request : ContinuityRequest) (nodeId peerId : String)
    (targetUrl : Option String) : List (Op Snapshot) :=
  .getRecord nodeId :: (request.artifactPaths.map (.transfer peerId)
    ++ [.continueWork request.portableWork request.sourceDeviceId continuityId targetUrl])

theorem calls_prefix_callTrace (h : Program.Admitted (Starts continuityId request) past) :
    ∃ nodeId peerId targetUrl,
      (calls past).map Event.op <+: callTrace continuityId request nodeId peerId targetUrl := by
  induction past using List.reverseRecOn with
  | nil => exact ⟨"", "", none, List.nil_prefix⟩
  | append_singleton past e ih =>
      have hstarted : Starts continuityId request past e.op := h past e [] rfl
      obtain ⟨op, answer⟩ := e
      cases op with
      | enter | store | createSnapshot | navigate =>
          rw [calls_other past rfl]
          exact ih h.of_append
      | getRecord nodeId =>
          obtain ⟨-, -, hcalls, -⟩ := hstarted
          rw [calls_call past rfl, hcalls]
          exact ⟨nodeId, "", none, _, rfl⟩
      | transfer peerId artifactPath =>
          obtain ⟨-, -, candidate, done, hcleared, rest, hpaths⟩ := hstarted
          refine ⟨candidate.nodeId, peerId, none, ?_⟩
          rw [calls_call past rfl, List.map_append, hcleared.map_op, callTrace, ← hpaths]
          simp
      | continueWork portableWork sourceDeviceId id targetUrl =>
          obtain ⟨-, -, ⟨rfl, rfl, rfl⟩, candidate, peerId, done, hcleared, hpaths⟩ := hstarted
          refine ⟨candidate.nodeId, peerId, targetUrl, ?_⟩
          rw [calls_call past rfl, List.map_append, hcleared.map_op, callTrace, ← hpaths]
          simp

end Continuity

/-- **The call trace.** The calls of a run are a prefix of the full trace. Nothing is transferred or
handed over before the selected node was found trusted and every transfer so far has passed, and
nothing is handed over before every artifact was transferred. -/
theorem ContinuityService.requestContinuity_calls (service : ContinuityService)
    (collaborators : Collaborators Snapshot) (errorText : PyValue → PyValue → String)
    (continuityId : String) (request : ContinuityRequest) :
    let run := service.requestContinuity collaborators errorText continuityId request
    (∃ nodeId peerId targetUrl,
        (calls run.1).map Event.op <+: callTrace continuityId request nodeId peerId targetUrl)
      ∧ ∀ before e after, run.1 = before ++ e :: after →
        (isGetRecord e = true →
            ∃ candidate, Selected before candidate ∧ e.op = .getRecord candidate.nodeId)
          ∧ (isTransfer e = true ∨ isContinueWork e = true → Valid request ∧ AllPass before
            ∧ ∃ candidate trustRecord, Selected before candidate ∧ trustRecord.status = .trusted
              ∧ trustCall candidate.nodeId (.ok (some trustRecord)) ∈ before)
          ∧ (isContinueWork e = true → Delivered request before) := by
  intro run
  have hadmitted :=
    requestContinuity_admitted service collaborators errorText continuityId request
  refine ⟨calls_prefix_callTrace hadmitted, fun before e after hrun => ?_⟩
  have hstarted : Starts continuityId request before e.op := hadmitted before e after hrun
  obtain ⟨op, answer⟩ := e
  cases op with
  | enter | store | createSnapshot | navigate => simp [isGetRecord, isTransfer, isContinueWork]
  | getRecord nodeId =>
      obtain ⟨-, -, -, candidate, hselected, rfl⟩ := hstarted
      refine ⟨fun _ => ⟨candidate, hselected, rfl⟩, ?_⟩
      simp [isTransfer, isContinueWork]
  | transfer peerId artifactPath =>
      obtain ⟨-, hvalid, candidate, done, hcleared, -⟩ := hstarted
      refine ⟨by simp [isGetRecord], fun _ => ⟨hvalid, hcleared.allPass, ?_⟩,
        by simp [isContinueWork]⟩
      exact hcleared.trusted
  | continueWork portableWork sourceDeviceId id targetUrl =>
      obtain ⟨-, hvalid, -, candidate, peerId, done, hcleared, hpaths⟩ := hstarted
      refine ⟨by simp [isGetRecord], fun _ => ⟨hvalid, hcleared.allPass, ?_⟩,
        fun _ => hcleared.delivered hpaths⟩
      exact hcleared.trusted

/-! ### Completed transfers -/

namespace Continuity

def Completed (request : ContinuityRequest) (past : Past Snapshot) : Prop :=
  ∃ peerId done, done.map Prod.fst = request.artifactPaths
    ∧ (∀ transferred ∈ done, transferred.2.status = .completed)
    ∧ transfers past = transferCalls peerId done

def AllComplete (past : Past Snapshot) : Prop :=
  ∀ peerId artifactPath answer,
    (⟨.transfer peerId artifactPath, answer⟩ : Event (Answer Snapshot)) ∈ past →
      ∃ response, answer = .ok response ∧ response.status = .completed

/-- The operation hands the work over, or stores a result that claims the transfer. -/
def ClaimsDelivery (e : Event (Answer Snapshot)) : Prop :=
  isContinueWork e = true ∨ ∃ session result, stored? e = some session
    ∧ session.result = some result ∧ result.transferCompleted = true

theorem isTransfer_cases {e : Event (Answer Snapshot)} (h : isTransfer e = true) :
    ∃ peerId artifactPath answer, e = ⟨.transfer peerId artifactPath, answer⟩ := by
  obtain ⟨op, answer⟩ := e
  cases op with
  | transfer peerId artifactPath => exact ⟨peerId, artifactPath, answer, rfl⟩
  | enter | store | createSnapshot | navigate | getRecord | continueWork => cases h

theorem isContinueWork_cases {e : Event (Answer Snapshot)} (h : isContinueWork e = true) :
    ∃ portableWork sourceDeviceId id targetUrl answer,
      e = ⟨.continueWork portableWork sourceDeviceId id targetUrl, answer⟩ := by
  obtain ⟨op, answer⟩ := e
  cases op with
  | continueWork portableWork sourceDeviceId id targetUrl =>
      exact ⟨portableWork, sourceDeviceId, id, targetUrl, answer, rfl⟩
  | enter | store | createSnapshot | navigate | getRecord | transfer => cases h

/-- Nothing is transferred once every artifact was. -/
theorem transfers_of_delivered {later : Past Snapshot}
    (h : Program.Admitted (Starts continuityId request) (past ++ later))
    (hdelivered : Delivered request past) : transfers (past ++ later) = transfers past := by
  induction later using List.reverseRecOn with
  | nil => rw [List.append_nil]
  | append_singleton later e ih =>
      rw [← List.append_assoc] at h ⊢
      have hsame := ih h.of_append
      by_cases htransfer : isTransfer e = true
      · exfalso
        obtain ⟨peerId, artifactPath, answer, rfl⟩ := isTransfer_cases htransfer
        obtain ⟨-, -, candidate, done, hcleared, hpaths⟩ := h _ _ [] rfl
        obtain ⟨peerId', done', hpaths', -, htransfers⟩ := hdelivered
        have htransferred : (transferCalls peerId done : Past Snapshot)
          = transferCalls peerId' done' :=
          calc transferCalls peerId done = transfers (past ++ later) := hcleared.transfers_eq.symm
            _ = transfers past := hsame
            _ = transferCalls peerId' done' := htransfers
        have hlength := congrArg List.length htransferred
        have hle := hpaths.length_le
        rw [← hpaths'] at hle
        simp only [transferCalls, List.length_map, List.length_append,
          List.length_singleton] at hlength hle
        omega
      · exact (transfers_other _ (Bool.eq_false_of_not_eq_true htransfer)).trans hsame

theorem delivered_of_claims {e : Event (Answer Snapshot)}
    (hstarted : Starts continuityId request past e.op) (hclaims : ClaimsDelivery e) :
    Delivered request past := by
  obtain hcontinue | ⟨session, result, hstored, hresult, hcompleted⟩ := hclaims
  · obtain ⟨_, _, _, _, _, rfl⟩ := isContinueWork_cases hcontinue
    obtain ⟨-, -, -, candidate, peerId, done, hcleared, hpaths⟩ := hstarted
    exact hcleared.delivered hpaths
  · rcases stored?_cases hstored with rfl | rfl
    · obtain ⟨-, rfl⟩ := hstarted
      cases hresult
    · exact hstarted.2.2.2 result hresult hcompleted

/-- What was transferred when every artifact was, is all there is. -/
theorem Delivered.completed {later : Past Snapshot}
    (h : Program.Admitted (Starts continuityId request) (past ++ later))
    (hdelivered : Delivered request past)
    (hcomplete : AllPass (past ++ later) → AllComplete (past ++ later)) :
    Completed request past := by
  obtain ⟨peerId, done, hpaths, hpasses, htransfers⟩ := hdelivered
  have hall : transfers (past ++ later) = transferCalls peerId done :=
    (transfers_of_delivered h ⟨peerId, done, hpaths, hpasses, htransfers⟩).trans htransfers
  refine ⟨peerId, done, hpaths, ?_, htransfers⟩
  have hpass : AllPass (past ++ later) := allPass_of_transfers hall hpasses
  intro transferred hdone
  have hmem : (⟨.transfer peerId transferred.1, .ok transferred.2⟩ : Event (Answer Snapshot))
      ∈ transfers (past ++ later) := by
    rw [hall]
    exact List.mem_map.mpr ⟨transferred, hdone, rfl⟩
  obtain ⟨response, hok, hstatus⟩ :=
    hcomplete hpass peerId transferred.1 (.ok transferred.2) (List.mem_of_mem_filter hmem)
  cases hok
  exact hstatus

end Continuity

/-- **Completed transfers.** A run hands the work over, or stores or returns a result that claims
the transfer, only after every artifact's transfer reported COMPLETED, if and only if one of its
transfers fails or all of them report COMPLETED. -/
theorem ContinuityService.requestContinuity_completed_iff (service : ContinuityService)
    (collaborators : Collaborators Snapshot) (errorText : PyValue → PyValue → String)
    (continuityId : String) (request : ContinuityRequest) :
    let run := service.requestContinuity collaborators errorText continuityId request
    ((∀ before e after, run.1 = before ++ e :: after → ClaimsDelivery e → Completed request before)
        ∧ ∀ session result, run.2 = .ok session → session.result = some result →
          result.transferCompleted = true → Completed request run.1)
      ↔ (AllPass run.1 → AllComplete run.1) := by
  intro run
  have hadmitted :=
    requestContinuity_admitted service collaborators errorText continuityId request
  constructor
  · rintro ⟨hclaims, -⟩ hpass peerId artifactPath answer hmem
    obtain ⟨exc, -, hpast⟩ | ⟨session, -, hfinal⟩ :=
      service.requestContinuity_ends collaborators errorText continuityId request
    · rw [hpast, List.mem_singleton] at hmem
      cases hmem
    · have htransfer : (⟨.transfer peerId artifactPath, answer⟩ : Event (Answer Snapshot))
          ∈ transfers run.1 := List.mem_filter.mpr ⟨hmem, rfl⟩
      obtain ⟨e, he, hcontinue⟩ := hfinal.settled (List.ne_nil_of_mem htransfer) hpass
      obtain ⟨before, after, hrun⟩ := List.append_of_mem he
      have hstarted : Starts continuityId request before e.op := hadmitted before e after hrun
      obtain ⟨peerId', done, -, hcompleted, htransfers⟩ :=
        hclaims before e after hrun (Or.inl hcontinue)
      rw [hrun] at hadmitted htransfer
      rw [transfers_of_delivered hadmitted (delivered_of_claims hstarted (Or.inl hcontinue)),
        htransfers] at htransfer
      obtain ⟨response, hok, hdone⟩ := mem_transferCalls htransfer
      exact ⟨response, hok, hcompleted _ hdone⟩
  · intro hcomplete
    constructor
    · intro before e after hrun hclaims
      have hstarted : Starts continuityId request before e.op := hadmitted before e after hrun
      rw [hrun] at hadmitted hcomplete
      exact (delivered_of_claims hstarted hclaims).completed hadmitted hcomplete
    · intro session result hreturned hresult hcompleted
      obtain ⟨exc, hraised, -⟩ | ⟨session', hreturned', hfinal⟩ :=
        service.requestContinuity_ends collaborators errorText continuityId request
      · rw [hraised] at hreturned
        cases hreturned
      · rw [hreturned'] at hreturned
        cases hreturned
        have hdelivered := hfinal.holds.delivered result hresult hcompleted
        rw [← List.append_nil run.1] at hadmitted hcomplete
        exact hdelivered.completed hadmitted hcomplete

/-- Flux has only started the transfer, and the work is handed over. -/
theorem ContinuityService.draft_handed_over_while_running :
    ¬((∀ before e after, (draftRun .running).1 = before ++ e :: after → ClaimsDelivery e →
          Completed draftRequest before)
        ∧ ∀ session result, (draftRun .running).2 = .ok session → session.result = some result →
          result.transferCompleted = true → Completed draftRequest (draftRun .running).1) := by
  rintro ⟨hclaims, -⟩
  have hsplit : (draftRun .running).1 = (draftRun .running).1.take 15
      ++ ⟨.continueWork draftRequest.portableWork "a" "c" none,
          .ok ⟨"o", .verifiedSuccess, true, true, ""⟩⟩ :: (draftRun .running).1.drop 16 := rfl
  obtain ⟨peerId, done, -, hcompleted, htransfers⟩ := hclaims _ _ _ hsplit (Or.inl rfl)
  have hrunning : transfers ((draftRun .running).1.take 15)
      = [⟨.transfer "b" "draft.txt", .ok ⟨"t", .running⟩⟩] := rfl
  have hmem : (⟨.transfer "b" "draft.txt", .ok ⟨"t", .running⟩⟩ : Event (Answer Unit))
      ∈ transfers ((draftRun .running).1.take 15) := hrunning ▸ List.mem_cons_self
  rw [htransfers] at hmem
  obtain ⟨response, hok, hdone⟩ := mem_transferCalls hmem
  have hstatus := hcompleted _ hdone
  cases hok
  cases hstatus

end Shyam
