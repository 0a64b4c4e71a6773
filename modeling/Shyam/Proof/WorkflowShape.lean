import Shyam.Proof.WorkflowTraces

/-!
# The shape of a workflow result

One result for each step, in order: successes up to a failure, a cancellation or the end, then what
a failure skips, then what a cancellation takes with it. Executors are called for a prefix of the
steps, once each.
-/

namespace Shyam

open Python Interaction Program

namespace WorkflowEngine

/-- COMPLETED^a, then nothing, or CANCELLED^c with c ≥ 1, or FAILED SKIPPED^b CANCELLED^c. -/
def Shape (states : List StepState) : Prop :=
  ∃ a, states = List.replicate a .completed
    ∨ (∃ c, 1 ≤ c ∧ states = List.replicate a .completed ++ List.replicate c .cancelled)
    ∨ ∃ b c, states = List.replicate a .completed
        ++ .failed :: (List.replicate b .skipped ++ List.replicate c .cancelled)

/-- The step whose start was announced last. -/
def currentStep (current : Option String) (e : Event Answer) : Option String :=
  match e.op with
  | .publish ⟨_, _, .stepStarted stepId _ _⟩ => some stepId
  | _ => current

/-- The calls of executors, each with the step whose start was announced last and its input. -/
def executions : Option String → Past → List (Option String × Dict PyValue)
  | _, [] => []
  | current, e :: past =>
      match e.op with
      | .execute _ inputData => (current, inputData) :: executions current past
      | _ => executions (currentStep current e) past

def execution (step : WorkflowStep) : Option String × Dict PyValue :=
  (some step.stepId, step.inputData)

/-- The executors that are called are those of the first `m` steps. All of these but the last
succeeded, and the last succeeded or failed. -/
def Dispatched (steps : List WorkflowStep) (results : List StepResult)
    (calls : List (Option String × Dict PyValue)) : Prop :=
  ∃ m, m ≤ steps.length ∧ calls = (steps.take m).map execution
    ∧ (∀ result ∈ results.take (m - 1), result.state = .completed)
    ∧ ∀ result ∈ results.take m, result.state = .completed ∨ result.state = .failed

def Op.isExecute : Op → Bool
  | .execute _ _ => true
  | _ => false

/-- A call of the navigator, of the executor registry or of an executor. -/
def Op.isCall : Op → Bool
  | .navigate _ | .getExecutor _ | .execute _ _ => true
  | _ => false

/-- Once the token was found cancelled, no executor is called. -/
def Heeds (e later : Event Answer) : Prop := e = tokenRead true → later.op.isExecute = false

structure WellShaped (workflow : Workflow) (past : Past) (result : WorkflowResult) : Prop where
  results : result.stepResults.map (fun r => (r.stepId, r.capability))
    = workflow.steps.map fun step => (step.stepId, step.capability)
  shape : Shape (result.stepResults.map StepResult.state)
  completed_iff : result.state = .completed ↔ ∀ r ∈ result.stepResults, r.state = .completed
  dispatched : Dispatched workflow.steps result.stepResults (executions none past)
  heeds : past.Pairwise Heeds

variable {workflow : Workflow} {step : WorkflowStep} {steps : List WorkflowStep} {trace : Past}
  {result : StepResult} {results : List StepResult} {failure : Option String} {ending : Ending}

/-! ### What each part of a trace calls -/

theorem executions_append (current : Option String) (past past' : Past) :
    executions current (past ++ past')
      = executions current past ++ executions (past.foldl currentStep current) past' := by
  induction past generalizing current with
  | nil => rfl
  | cons e past ih =>
      rw [List.cons_append, List.foldl_cons, executions, executions]
      split
      next heq =>
        rw [ih, List.cons_append, currentStep, heq]
      next => exact ih _

theorem executions_tokenRead (current : Option String) (cancelled : Bool) :
    executions current (tokenRead cancelled :: trace) = executions current trace := rfl

theorem executions_reasonRead (current : Option String) (reason : String) :
    executions current (reasonRead reason :: trace) = executions current trace := rfl

theorem StepTrace.identity (h : StepTrace workflow step trace result) :
    result.stepId = step.stepId ∧ result.capability = step.capability := by
  obtain ⟨hcalls, -⟩ := h
  cases hcalls <;> exact ⟨rfl, rfl⟩

theorem StepTrace.failed (h : StepTrace workflow step trace result)
    (hfailure : result.isSuccess = false) : result.state = .failed := by
  obtain ⟨hcalls, -⟩ := h
  cases hcalls with
  | completes navResult target output hselected => cases hfailure
  | _ => rfl

theorem StepTrace.executions (h : StepTrace workflow step trace result) (current : Option String) :
    executions current trace = [execution step]
      ∨ executions current trace = [] ∧ result.isSuccess = false := by
  obtain ⟨hcalls, hverdict⟩ := h
  cases hcalls with
  | navigatorRaises exc =>
      cases hverdict
      exact Or.inr ⟨rfl, rfl⟩
  | noSelection navResult hselected =>
      cases hverdict
      exact Or.inr ⟨rfl, rfl⟩
  | noExecutor navResult target hselected =>
      cases hverdict
      exact Or.inr ⟨rfl, rfl⟩
  | executorRaises navResult target exc hselected =>
      cases hverdict
      exact Or.inl rfl
  | completes navResult target output hselected =>
      cases hverdict
      exact Or.inl rfl

theorem StepTrace.not_tokenRead (h : StepTrace workflow step trace result) (cancelled : Bool) :
    tokenRead cancelled ∉ trace := by
  obtain ⟨hcalls, hverdict⟩ := h
  cases hcalls <;> simp [published, tokenRead]

/-- What a cancellation leaves, one result for each step that it takes. -/
def Cancels (steps : List WorkflowStep) (results : List StepResult) : Prop :=
  List.Forall₂ (fun step result => ∃ reason, result = cancelledResult step reason) steps results

theorem CancelTrace.cancels (h : CancelTrace workflow steps trace results) :
    Cancels steps results := by
  induction h with
  | nil => exact .nil
  | cons error reason h ih => exact .cons ⟨error, rfl⟩ ih

theorem cancels_zipWith {reasons : List String} (h : reasons.length = steps.length) :
    Cancels steps (List.zipWith cancelledResult steps reasons) := by
  induction steps generalizing reasons with
  | nil => exact .nil
  | cons step rest ih =>
      cases reasons with
      | nil => cases h
      | cons reason reasons => exact .cons ⟨reason, rfl⟩ (ih (Nat.succ.inj h))

theorem Cancels.identities (h : Cancels steps results) :
    results.map (fun r => (r.stepId, r.capability))
      = steps.map fun step => (step.stepId, step.capability) := by
  induction h with
  | nil => rfl
  | cons hresult h ih =>
      obtain ⟨reason, rfl⟩ := hresult
      rw [List.map_cons, List.map_cons, ih]
      rfl

theorem Cancels.states (h : Cancels steps results) :
    results.map StepResult.state = List.replicate steps.length .cancelled := by
  induction h with
  | nil => rfl
  | cons hresult h ih =>
      obtain ⟨reason, rfl⟩ := hresult
      rw [List.map_cons, ih, List.length_cons, List.replicate_succ]
      rfl

theorem Cancels.shape (h : Cancels steps results) (hne : steps ≠ []) :
    Shape (results.map StepResult.state) :=
  ⟨0, Or.inr (Or.inl ⟨steps.length, List.length_pos_iff.mpr hne, h.states⟩)⟩

theorem Cancels.not_completed (h : Cancels steps results) (hne : steps ≠ []) :
    ¬∀ r ∈ results, r.state = .completed := by
  cases h with
  | nil => exact absurd rfl hne
  | cons hresult h =>
      obtain ⟨reason, rfl⟩ := hresult
      simp [cancelledResult]

theorem Op.isExecute_eq_false {op : Op} (h : op.isCall = false) : op.isExecute = false := by
  cases op with
  | execute target inputData => cases h
  | _ => rfl

theorem CancelTrace.not_call (h : CancelTrace workflow steps trace results) :
    ∀ e ∈ trace, e.op.isCall = false := by
  induction h with
  | nil => simp
  | cons error reason h ih =>
      rw [List.forall_mem_cons, List.forall_mem_cons, List.forall_mem_cons]
      exact ⟨rfl, rfl, rfl, ih⟩

theorem executions_of_forall (current : Option String) (h : ∀ e ∈ trace, e.op.isCall = false) :
    executions current trace = [] := by
  induction trace generalizing current with
  | nil => rfl
  | cons e trace ih =>
      rw [List.forall_mem_cons] at h
      rw [executions]
      split
      next heq =>
        rw [heq] at h
        cases h.1
      next => exact ih _ h.2

theorem pairwise_heeds_of_forall (h : ∀ e ∈ trace, e.op.isCall = false) : trace.Pairwise Heeds :=
  List.pairwise_of_forall_mem_list fun _ _ later hlater _ => Op.isExecute_eq_false (h later hlater)

/-! ### The loop -/

theorem LoopTrace.identities (h : LoopTrace workflow failure steps trace results ending) :
    results.map (fun r => (r.stepId, r.capability))
      = steps.map fun step => (step.stepId, step.capability) := by
  induction h with
  | completed => rfl
  | failed error => rfl
  | cancel reason h => exact h.cancels.identities
  | skip h ih =>
      rw [List.map_cons, List.map_cons, ih]
      rfl
  | succeed hstep hsuccess h ih =>
      rw [List.map_cons, List.map_cons, ih, hstep.identity.1, hstep.identity.2]
  | fail hstep hfailure h ih =>
      rw [List.map_cons, List.map_cons, ih, hstep.identity.1, hstep.identity.2]

theorem isSuccess_iff : result.isSuccess = true ↔ result.state = .completed := by
  rw [StepResult.isSuccess, decide_eq_true_iff]

theorem LoopTrace.tail (h : LoopTrace workflow failure steps trace results ending)
    (hfailure : failure.isSome) :
    ∃ b c, results.map StepResult.state
      = List.replicate b .skipped ++ List.replicate c .cancelled := by
  induction h with
  | completed => cases hfailure
  | failed error => exact ⟨0, 0, rfl⟩
  | cancel reason h => exact ⟨0, _, h.cancels.states.trans (List.nil_append _).symm⟩
  | skip h ih =>
      obtain ⟨b, c, hstates⟩ := ih rfl
      refine ⟨b + 1, c, ?_⟩
      rw [List.map_cons, hstates, List.replicate_succ, List.cons_append]
      rfl
  | succeed hstep hsuccess h ih => cases hfailure
  | fail hstep hfailed h ih => cases hfailure

theorem Shape.completed {states : List StepState} (h : Shape states) :
    Shape (.completed :: states) := by
  obtain ⟨a, rfl | ⟨c, hc, rfl⟩ | ⟨b, c, rfl⟩⟩ := h
  · exact ⟨a + 1, Or.inl List.replicate_succ.symm⟩
  · refine ⟨a + 1, Or.inr (Or.inl ⟨c, hc, ?_⟩)⟩
    rw [List.replicate_succ, List.cons_append]
  · refine ⟨a + 1, Or.inr (Or.inr ⟨b, c, ?_⟩)⟩
    rw [List.replicate_succ, List.cons_append]

theorem LoopTrace.shape (h : LoopTrace workflow failure steps trace results ending)
    (hfailure : failure = none) : Shape (results.map StepResult.state) := by
  induction h with
  | completed => exact ⟨0, Or.inl rfl⟩
  | failed error => cases hfailure
  | cancel reason h => exact h.cancels.shape (List.cons_ne_nil _ _)
  | skip h ih => cases hfailure
  | succeed hstep hsuccess h ih =>
      rw [List.map_cons, isSuccess_iff.mp hsuccess]
      exact (ih rfl).completed
  | fail hstep hfailed h ih =>
      obtain ⟨b, c, hstates⟩ := h.tail rfl
      refine ⟨0, Or.inr (Or.inr ⟨b, c, ?_⟩)⟩
      rw [List.map_cons, hstep.failed hfailed, hstates]
      rfl

theorem LoopTrace.completed_iff (h : LoopTrace workflow failure steps trace results ending) :
    ending = .completed ↔ failure = none ∧ ∀ r ∈ results, r.state = .completed := by
  induction h with
  | completed => simp
  | failed error => simp
  | cancel reason h =>
      refine iff_of_false (by simp) ?_
      rintro ⟨-, hall⟩
      exact h.cancels.not_completed (List.cons_ne_nil _ _) hall
  | skip h ih => simpa using ih
  | succeed hstep hsuccess h ih => simpa [isSuccess_iff.mp hsuccess] using ih
  | fail hstep hfailed h ih =>
      rw [ih]
      simp [hstep.failed hfailed]

theorem dispatched_nil : Dispatched steps results [] := by
  refine ⟨0, Nat.zero_le _, rfl, ?_, ?_⟩ <;> simp

theorem Dispatched.cons {calls : List (Option String × Dict PyValue)}
    (h : Dispatched steps results calls) (step : WorkflowStep)
    (hresult : result.state = .completed) :
    Dispatched (step :: steps) (result :: results) (execution step :: calls) := by
  obtain ⟨m, hm, hcalls, hbefore, hall⟩ := h
  refine ⟨m + 1, Nat.succ_le_succ hm, ?_, ?_, ?_⟩
  · rw [hcalls, List.take_succ_cons, List.map_cons]
  · intro r hr
    cases m with
    | zero => cases hr
    | succ m =>
        rw [Nat.add_sub_cancel, List.take_succ_cons, List.mem_cons] at hr
        rcases hr with rfl | hr
        · exact hresult
        · exact hbefore r hr
  · rw [List.take_succ_cons, List.forall_mem_cons]
    exact ⟨Or.inl hresult, hall⟩

theorem LoopTrace.not_call (h : LoopTrace workflow failure steps trace results ending)
    (hfailure : failure.isSome) : ∀ e ∈ trace, e.op.isCall = false := by
  induction h with
  | completed => cases hfailure
  | failed error => simp
  | cancel reason h =>
      rw [List.forall_mem_cons, List.forall_mem_cons]
      exact ⟨rfl, rfl, h.not_call⟩
  | skip h ih =>
      rw [List.forall_mem_cons, List.forall_mem_cons]
      exact ⟨rfl, rfl, ih rfl⟩
  | succeed hstep hsuccess h ih => cases hfailure
  | fail hstep hfailed h ih => cases hfailure

theorem LoopTrace.dispatched (h : LoopTrace workflow failure steps trace results ending)
    (hfailure : failure = none) (current : Option String) :
    Dispatched steps results (executions current trace) := by
  induction h generalizing current with
  | completed => exact dispatched_nil
  | failed error => cases hfailure
  | cancel reason h =>
      rw [executions_tokenRead, executions_reasonRead, executions_of_forall current h.not_call]
      exact dispatched_nil
  | skip h ih => cases hfailure
  | @succeed step rest trace trace' result results ending hstep hsuccess h ih =>
      have hstepcalls : executions current trace = [execution step] := by
        obtain hone | ⟨-, hfailed⟩ := hstep.executions current
        · exact hone
        · rw [hsuccess] at hfailed
          cases hfailed
      rw [executions_tokenRead, executions_append, hstepcalls, List.singleton_append]
      exact (ih rfl _).cons step (isSuccess_iff.mp hsuccess)
  | @fail step rest trace trace' result results ending hstep hfailed h ih =>
      have hrest : executions current (trace
          ++ published workflow (.failed step.stepId (failureText step result)) :: trace')
          = executions current trace := by
        rw [executions_append]
        change _ ++ executions _ trace' = _
        rw [executions_of_forall _ (h.not_call rfl), List.append_nil]
      rw [executions_tokenRead, hrest]
      obtain hone | ⟨hnone, -⟩ := hstep.executions current
      · rw [hone]
        refine ⟨1, Nat.succ_le_succ (Nat.zero_le _), rfl, by simp, ?_⟩
        simp [hstep.failed hfailed]
      · rw [hnone]
        exact dispatched_nil

theorem pairwise_heeds_append {part rest : Past} (hpart : tokenRead true ∉ part)
    (hrest : rest.Pairwise Heeds) : (part ++ rest).Pairwise Heeds := by
  rw [List.pairwise_append]
  refine ⟨?_, hrest, ?_⟩
  · exact List.pairwise_of_forall_mem_list fun e he _ _ heq => absurd (heq ▸ he) hpart
  · exact fun e he _ _ heq => absurd (heq ▸ he) hpart

theorem pairwise_heeds_concat {past rest : Past} (hpast : past.Pairwise Heeds)
    (hrest : ∀ e ∈ rest, e.op.isCall = false) : (past ++ rest).Pairwise Heeds := by
  rw [List.pairwise_append]
  refine ⟨hpast, pairwise_heeds_of_forall hrest, fun _ _ later hlater _ => ?_⟩
  exact Op.isExecute_eq_false (hrest later hlater)

theorem StepTrace.not_cancelled (h : StepTrace workflow step trace result) :
    tokenRead true ∉ tokenRead false :: trace := by
  rw [List.mem_cons, not_or]
  exact ⟨by simp [tokenRead], h.not_tokenRead true⟩

theorem LoopTrace.heeds (h : LoopTrace workflow failure steps trace results ending) :
    trace.Pairwise Heeds := by
  induction h with
  | completed => exact .nil
  | failed error => exact .nil
  | cancel reason h =>
      apply pairwise_heeds_of_forall
      rw [List.forall_mem_cons, List.forall_mem_cons]
      exact ⟨rfl, rfl, h.not_call⟩
  | @skip error step rest trace results ending h ih =>
      have hskip : tokenRead true ∉ [tokenRead false, published workflow
          (.stepSkipped step.stepId step.capability "Prior step failed")] := by
        simp [tokenRead, published]
      exact pairwise_heeds_append hskip ih
  | succeed hstep hsuccess h ih => exact pairwise_heeds_append hstep.not_cancelled ih
  | @fail step rest trace trace' result results ending hstep hfailed h ih =>
      have hevent : tokenRead true ∉ [published workflow
          (.failed step.stepId (failureText step result))] := by
        simp [tokenRead, published]
      exact pairwise_heeds_append hstep.not_cancelled (pairwise_heeds_append hevent ih)

/-! ### The run -/

theorem Concludes.not_call {state : WorkflowState} {error : Option String}
    (h : Concludes workflow ending trace state error) : ∀ e ∈ trace, e.op.isCall = false := by
  cases h <;> simp [published, reasonRead, Op.isCall]

theorem Concludes.completed_iff {state : WorkflowState} {error : Option String}
    (h : Concludes workflow ending trace state error) :
    state = .completed ↔ ending = .completed := by
  cases h <;> simp

theorem not_call_of_cancelled (workflow : Workflow) (reasons : List String)
    (reason detail : String) :
    ∀ e ∈ tokenRead true :: reasons.map reasonRead
      ++ [reasonRead reason, published workflow (.cancelled reason), reasonRead detail],
      e.op.isCall = false := by
  intro e he
  rw [List.cons_append, List.mem_cons, List.mem_append, List.mem_map] at he
  obtain rfl | ⟨text, -, rfl⟩ | he := he
  · rfl
  · rfl
  · rw [List.mem_cons, List.mem_cons, List.mem_singleton] at he
    obtain rfl | rfl | rfl := he <;> rfl

theorem RunTrace.wellShaped {past : Past} {result : WorkflowResult}
    (h : RunTrace workflow past result) : WellShaped workflow past result := by
  cases h with
  | empty hempty =>
      exact {
        results := by rw [hempty]; rfl
        shape := ⟨0, Or.inl rfl⟩
        completed_iff := by simp [makeResult]
        dispatched := dispatched_nil
        heeds := pairwise_heeds_of_forall (by simp [published, Op.isCall]) }
  | @cancelled reasons hne hreasons reason detail =>
      have hcancels := cancels_zipWith hreasons
      have hnone := not_call_of_cancelled workflow reasons reason detail
      exact {
        results := hcancels.identities
        shape := hcancels.shape hne
        completed_iff := iff_of_false (by simp [makeResult]) (hcancels.not_completed hne)
        dispatched := executions_of_forall none hnone ▸ dispatched_nil
        heeds := pairwise_heeds_of_forall hnone }
  | @ran trace trace' results ending state error hne hloop hends =>
      have hcalls : executions none (tokenRead false
          :: published workflow (.started workflow.steps.length) :: (trace ++ trace'))
          = executions none trace := by
        rw [executions_tokenRead]
        change executions none (trace ++ trace') = _
        rw [executions_append, executions_of_forall _ hends.not_call, List.append_nil]
      have hopening : tokenRead true ∉
          [tokenRead false, published workflow (.started workflow.steps.length)] := by
        simp [tokenRead, published]
      exact {
        results := hloop.identities
        shape := hloop.shape rfl
        completed_iff := by
          rw [makeResult, hends.completed_iff, hloop.completed_iff]
          exact and_iff_right rfl
        dispatched := hcalls ▸ hloop.dispatched rfl none
        heeds := pairwise_heeds_append hopening
          (pairwise_heeds_concat hloop.heeds hends.not_call) }

/-- **Fail-fast.** Whatever the collaborators answer and whenever the token is set, a run returns a
result of that shape. -/
theorem run_wellShaped (answers : Past → (op : Op) → Answer op) (workflow : Workflow) :
    ∃ result, ((run workflow).run answers []).2 = .ok result
      ∧ WellShaped workflow ((run workflow).run answers []).1 result := by
  obtain ⟨result, hresult, htrace⟩ := exists_runTrace answers workflow
  exact ⟨result, hresult, htrace.wellShaped⟩

end WorkflowEngine

end Shyam
