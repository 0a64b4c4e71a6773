import Shyam.Workflow.Engine

/-!
# What a run of the engine leaves

The trace of a complete run, with the result that it goes with: the five failing exits and the
success of a step, the steps that a cancellation takes with it, and the loop, which succeeds up to a
failure and skips from there on until it finds the token cancelled.
-/

namespace Shyam

open Python Interaction Program

namespace WorkflowEngine

def published (workflow : Workflow) (kind : WorkflowEvent.Kind) : Event Answer :=
  ⟨.publish ⟨workflow.workflowId, workflow.name, kind⟩, ()⟩

def tokenRead (cancelled : Bool) : Event Answer := ⟨.isCancelled, cancelled⟩

def reasonRead (reason : String) : Event Answer := ⟨.reason, reason⟩

def request (step : WorkflowStep) : NavigationRequest := ⟨step.capability, step.constraints⟩

/-- The calls of a step to its collaborators, and its result. -/
inductive Consults (step : WorkflowStep) : Past → StepResult → Prop
  | navigatorRaises (exc : Exc) :
      Consults step [⟨.navigate (request step), .error exc⟩]
        (failure step none ("Navigator invocation error: " ++ exc.text))
  | noSelection (navResult : NavigationResult) (h : navResult.selected = none) :
      Consults step [⟨.navigate (request step), .ok navResult⟩]
        (failure step none (noSelectionText navResult.reason))
  | noExecutor (navResult : NavigationResult) (target : NavigationCandidate)
      (h : navResult.selected = some target) :
      Consults step
        [⟨.navigate (request step), .ok navResult⟩, ⟨.getExecutor target.providerId, false⟩]
        (failure step (some target)
          ("No executor available for provider '" ++ target.providerId ++ "'"))
  | executorRaises (navResult : NavigationResult) (target : NavigationCandidate) (exc : Exc)
      (h : navResult.selected = some target) :
      Consults step
        [⟨.navigate (request step), .ok navResult⟩, ⟨.getExecutor target.providerId, true⟩,
          ⟨.execute target step.inputData, .error exc⟩]
        (failure step (some target) exc.text)
  | completes (navResult : NavigationResult) (target : NavigationCandidate) (output : PyValue)
      (h : navResult.selected = some target) :
      Consults step
        [⟨.navigate (request step), .ok navResult⟩, ⟨.getExecutor target.providerId, true⟩,
          ⟨.execute target step.inputData, .ok output⟩]
        (success step target output)

/-- The event that ends a step. -/
inductive Announces (step : WorkflowStep) : StepResult → WorkflowEvent.Kind → Prop
  | completed (target : NavigationCandidate) (output : PyValue) :
      Announces step (success step target output)
        (.stepCompleted step.stepId step.capability target output)
  | failed (target : Option NavigationCandidate) (error : String) :
      Announces step (failure step target error) (.stepFailed step.stepId step.capability error)

inductive StepTrace (workflow : Workflow) (step : WorkflowStep) : Past → StepResult → Prop
  | mk {calls : Past} {result : StepResult} {verdict : WorkflowEvent.Kind}
      (hcalls : Consults step calls result) (hverdict : Announces step result verdict) :
      StepTrace workflow step
        (published workflow (.stepStarted step.stepId step.capability none) :: calls
          ++ [published workflow verdict]) result

inductive CancelTrace (workflow : Workflow) : List WorkflowStep → Past → List StepResult → Prop
  | nil : CancelTrace workflow [] [] []
  | cons {step : WorkflowStep} {rest : List WorkflowStep} {trace : Past} {results : List StepResult}
      (error reason : String) (h : CancelTrace workflow rest trace results) :
      CancelTrace workflow (step :: rest)
        (reasonRead error :: reasonRead reason
          :: published workflow (.stepSkipped step.stepId step.capability
              ("Workflow cancelled: " ++ reason))
          :: trace)
        (cancelledResult step error :: results)

/-- How the loop ends: the variables that `conclude` reads. -/
inductive Ending where
  | completed
  | failed (error : String)
  | cancelled (afterFailure : Bool) (reason : String)

/-- The loop, after a failure with the given text or after none. -/
inductive LoopTrace (workflow : Workflow) :
    Option String → List WorkflowStep → Past → List StepResult → Ending → Prop
  | completed : LoopTrace workflow none [] [] [] .completed
  | failed (error : String) : LoopTrace workflow (some error) [] [] [] (.failed error)
  | cancel {failure : Option String} {step : WorkflowStep} {rest : List WorkflowStep} {trace : Past}
      {results : List StepResult} (reason : String)
      (h : CancelTrace workflow (step :: rest) trace results) :
      LoopTrace workflow failure (step :: rest)
        (tokenRead true :: reasonRead reason :: trace) results
        (.cancelled failure.isSome reason)
  | skip {error : String} {step : WorkflowStep} {rest : List WorkflowStep} {trace : Past}
      {results : List StepResult} {ending : Ending}
      (h : LoopTrace workflow (some error) rest trace results ending) :
      LoopTrace workflow (some error) (step :: rest)
        (tokenRead false
          :: published workflow (.stepSkipped step.stepId step.capability "Prior step failed")
          :: trace)
        (skippedResult step :: results) ending
  | succeed {step : WorkflowStep} {rest : List WorkflowStep} {trace trace' : Past}
      {result : StepResult} {results : List StepResult} {ending : Ending}
      (hstep : StepTrace workflow step trace result) (hsuccess : result.isSuccess = true)
      (h : LoopTrace workflow none rest trace' results ending) :
      LoopTrace workflow none (step :: rest) (tokenRead false :: (trace ++ trace'))
        (result :: results) ending
  | fail {step : WorkflowStep} {rest : List WorkflowStep} {trace trace' : Past}
      {result : StepResult} {results : List StepResult} {ending : Ending}
      (hstep : StepTrace workflow step trace result) (hfailure : result.isSuccess = false)
      (h : LoopTrace workflow (some (failureText step result)) rest trace' results ending) :
      LoopTrace workflow none (step :: rest)
        (tokenRead false :: (trace
          ++ published workflow (.failed step.stepId (failureText step result)) :: trace'))
        (result :: results) ending

/-- What follows the loop, and the state and the error of the result. -/
inductive Concludes (workflow : Workflow) :
    Ending → Past → WorkflowState → Option String → Prop
  | completed :
      Concludes workflow .completed [published workflow (.completed workflow.steps.length)]
        .completed none
  | failed (error : String) : Concludes workflow (.failed error) [] .failed (some error)
  | cancelled (afterFailure : Bool) (error reason : String) :
      Concludes workflow (.cancelled afterFailure error)
        [reasonRead reason, published workflow (.cancelled reason)] .cancelled (some error)

inductive RunTrace (workflow : Workflow) : Past → WorkflowResult → Prop
  | empty (h : workflow.steps = []) :
      RunTrace workflow [published workflow (.started 0), published workflow (.completed 0)]
        (makeResult workflow .completed [] none)
  | cancelled {reasons : List String} (hne : workflow.steps ≠ [])
      (hreasons : reasons.length = workflow.steps.length) (reason detail : String) :
      RunTrace workflow
        (tokenRead true :: reasons.map reasonRead
          ++ [reasonRead reason, published workflow (.cancelled reason), reasonRead detail])
        (makeResult workflow .cancelled (List.zipWith cancelledResult workflow.steps reasons)
          (some detail))
  | ran {trace trace' : Past} {results : List StepResult} {ending : Ending} {state : WorkflowState}
      {error : Option String} (hne : workflow.steps ≠ [])
      (hloop : LoopTrace workflow none workflow.steps trace results ending)
      (hends : Concludes workflow ending trace' state error) :
      RunTrace workflow
        (tokenRead false :: published workflow (.started workflow.steps.length)
          :: (trace ++ trace'))
        (makeResult workflow state results error)

/-! ### The stages -/

variable {workflow : Workflow} {step : WorkflowStep}

theorem yields_perform (op : Op) :
    Yields (perform op : Script (Answer op)) fun trace answer => trace = [⟨op, answer⟩] :=
  yields_ask op

theorem yields_publish (kind : WorkflowEvent.Kind) :
    Yields (publish workflow kind) fun trace _ => trace = [published workflow kind] :=
  (yields_ask _).mono fun _ _ h => h

/-- The request of a step passes the check that the step has passed. -/
theorem make_request :
    NavigationRequest.make step.capability step.constraints = .ok (request step) := by
  rw [NavigationRequest.make, NavigationRequest.validateCapability,
    validateNamespaced_idem step.capability_valid]
  rfl

theorem yields_failStep (target : Option NavigationCandidate) (error : String) :
    Yields (failStep workflow step target error) fun trace result =>
      trace = [published workflow (.stepFailed step.stepId step.capability error)]
        ∧ result = failure step target error := by
  apply (yields_publish _).bind
  rintro trace - rfl
  exact yields_pure ⟨rfl, rfl⟩

theorem yields_dispatch {navResult : NavigationResult} {target : NavigationCandidate}
    (h : navResult.selected = some target) :
    Yields (dispatch workflow step target) fun trace result =>
      StepTrace workflow step
        (published workflow (.stepStarted step.stepId step.capability none)
          :: ⟨.navigate (request step), .ok navResult⟩ :: trace) result := by
  apply (yields_perform _).bind
  rintro trace registered rfl
  split_ifs with hregistered
  · apply (yields_perform _).bind
    rintro trace outcome rfl
    subst hregistered
    cases outcome with
    | ok output =>
        apply (yields_publish _).bind
        rintro trace - rfl
        exact yields_pure (.mk (.completes navResult target output h) (.completed target output))
    | error exc =>
        apply (yields_failStep _ _).mono
        rintro trace result ⟨rfl, rfl⟩
        exact .mk (.executorRaises navResult target exc h) (.failed _ _)
  · rw [Bool.not_eq_true] at hregistered
    subst hregistered
    apply (yields_failStep _ _).mono
    rintro trace result ⟨rfl, rfl⟩
    exact .mk (.noExecutor navResult target h) (.failed _ _)

theorem yields_executeStep : Yields (executeStep workflow step) (StepTrace workflow step) := by
  apply (yields_publish _).bind
  rintro trace - rfl
  rw [make_request]
  apply (yields_perform _).bind
  rintro trace resolved rfl
  cases resolved with
  | error exc =>
      apply (yields_failStep _ _).mono
      rintro trace result ⟨rfl, rfl⟩
      exact .mk (.navigatorRaises exc) (.failed _ _)
  | ok navResult =>
      dsimp only
      cases hselected : navResult.selected with
      | none =>
          apply (yields_failStep _ _).mono
          rintro trace result ⟨rfl, rfl⟩
          exact .mk (.noSelection navResult hselected) (.failed _ _)
      | some target => exact yields_dispatch hselected

theorem yields_cancelRemaining (steps : List WorkflowStep) (p : Progress) :
    Yields (cancelRemaining workflow steps p) fun trace p' =>
      ∃ results, CancelTrace workflow steps trace results
        ∧ p' = { p with stepResults := p.stepResults ++ results } := by
  induction steps generalizing p with
  | nil => exact yields_pure ⟨[], .nil, by rw [List.append_nil]⟩
  | cons step rest ih =>
      apply (yields_perform _).bind
      rintro trace error rfl
      apply (yields_perform _).bind
      rintro trace reason rfl
      apply (yields_publish _).bind
      rintro trace - rfl
      apply (ih _).mono
      rintro trace p' ⟨results, htrace, rfl⟩
      refine ⟨_, .cons error reason htrace, ?_⟩
      simp [Progress.add]

/-- The local variables after the loop. -/
def Progress.EndsWith (p : Progress) : Ending → Prop
  | .completed =>
      p.workflowCancelled = false ∧ p.workflowFailed = false ∧ p.workflowError = none
  | .failed error =>
      p.workflowCancelled = false ∧ p.workflowFailed = true ∧ p.workflowError = some error
  | .cancelled afterFailure reason =>
      p.workflowCancelled = true ∧ p.workflowFailed = afterFailure ∧ p.workflowError = some reason

theorem Progress.stepResults_add (p : Progress) (result : StepResult) (results : List StepResult) :
    (p.add result).stepResults ++ results = p.stepResults ++ result :: results := by
  rw [add, List.append_assoc, List.singleton_append]

theorem yields_runSteps (steps : List WorkflowStep) (p : Progress)
    (hcancelled : p.workflowCancelled = false)
    (hfailed : p.workflowFailed = p.workflowError.isSome) :
    Yields (runSteps workflow steps p) fun trace p' =>
      ∃ results ending, LoopTrace workflow p.workflowError steps trace results ending
        ∧ p'.stepResults = p.stepResults ++ results ∧ p'.EndsWith ending := by
  induction steps generalizing p with
  | nil =>
      apply yields_pure
      cases herror : p.workflowError with
      | none =>
          rw [herror] at hfailed
          exact ⟨[], .completed, .completed, (List.append_nil _).symm, hcancelled, hfailed, herror⟩
      | some error =>
          rw [herror] at hfailed
          exact ⟨[], .failed error, .failed error, (List.append_nil _).symm,
            hcancelled, hfailed, herror⟩
  | cons step rest ih =>
      apply (yields_perform _).bind
      rintro trace cancelled rfl
      split_ifs with htoken hfail
      · subst htoken
        apply (yields_perform _).bind
        rintro trace reason rfl
        apply (yields_cancelRemaining _ _).mono
        rintro trace p' ⟨results, htrace, rfl⟩
        exact ⟨results, _, .cancel reason htrace, rfl, rfl, hfailed, rfl⟩
      · rw [Bool.not_eq_true] at htoken
        subst htoken
        apply (yields_publish _).bind
        rintro trace - rfl
        apply (ih (p.add (skippedResult step)) hcancelled hfailed).mono
        rintro trace p' ⟨results, ending, hloop, hresults, hends⟩
        rw [hfail] at hfailed
        obtain ⟨error, herror⟩ := Option.isSome_iff_exists.mp hfailed.symm
        rw [Progress.add, herror] at hloop
        refine ⟨skippedResult step :: results, ending, ?_, ?_, hends⟩
        · rw [herror]
          exact .skip hloop
        · exact hresults.trans (p.stepResults_add _ _)
      · rw [Bool.not_eq_true] at htoken hfail
        subst htoken
        have herror : p.workflowError = none := by
          rw [hfail] at hfailed
          exact Option.isNone_iff_eq_none.mp (Option.isSome_eq_false_iff.mp hfailed.symm)
        apply yields_executeStep.bind
        intro trace result hstep
        split_ifs with hsuccess
        · apply (ih (p.add result) hcancelled hfailed).mono
          rintro trace' p' ⟨results, ending, hloop, hresults, hends⟩
          rw [Progress.add, herror] at hloop
          have hsucceed := LoopTrace.succeed hstep hsuccess hloop
          refine ⟨result :: results, ending, ?_, ?_, hends⟩
          · rw [herror]
            exact hsucceed
          · exact hresults.trans (p.stepResults_add _ _)
        · rw [Bool.not_eq_true] at hsuccess
          apply (yields_publish _).bind
          rintro trace' - rfl
          apply (ih { p.add result with
            workflowFailed := true
            workflowError := some (failureText step result) } hcancelled rfl).mono
          rintro trace' p' ⟨results, ending, hloop, hresults, hends⟩
          refine ⟨result :: results, ending, ?_, ?_, hends⟩
          · rw [herror]
            exact .fail hstep hsuccess hloop
          · exact hresults.trans (p.stepResults_add _ _)

theorem yields_conclude {p : Progress} {ending : Ending} (h : p.EndsWith ending) :
    Yields (conclude workflow p) fun trace result =>
      ∃ state error, Concludes workflow ending trace state error
        ∧ result = makeResult workflow state p.stepResults error := by
  cases ending with
  | completed =>
      obtain ⟨hcancelled, hfailed, herror⟩ := h
      rw [conclude, hcancelled, hfailed, herror]
      apply (yields_publish _).bind
      rintro trace - rfl
      exact yields_pure ⟨_, _, .completed, rfl⟩
  | failed error =>
      obtain ⟨hcancelled, hfailed, herror⟩ := h
      rw [conclude, hcancelled, hfailed, herror]
      exact yields_pure ⟨_, _, .failed error, rfl⟩
  | cancelled afterFailure error =>
      obtain ⟨hcancelled, -, herror⟩ := h
      rw [conclude, hcancelled, herror]
      apply (yields_perform _).bind
      rintro trace reason rfl
      apply (yields_publish _).bind
      rintro trace - rfl
      exact yields_pure ⟨_, _, .cancelled afterFailure error reason, rfl⟩

theorem yields_cancelledResults (steps : List WorkflowStep) :
    Yields (cancelledResults steps) fun trace results =>
      ∃ reasons, reasons.length = steps.length ∧ trace = reasons.map reasonRead
        ∧ results = List.zipWith cancelledResult steps reasons := by
  induction steps with
  | nil => exact yields_pure ⟨[], rfl, rfl, rfl⟩
  | cons step rest ih =>
      apply (yields_perform _).bind
      rintro trace reason rfl
      apply ih.bind
      rintro trace results ⟨reasons, hlength, rfl, rfl⟩
      refine yields_pure ⟨reason :: reasons, ?_, ?_, rfl⟩
      · rw [List.length_cons, List.length_cons, hlength]
      · rw [List.append_nil]
        rfl

theorem yields_runCancelled (hne : workflow.steps ≠ []) :
    Yields (runCancelled workflow) fun trace result =>
      RunTrace workflow (tokenRead true :: trace) result := by
  apply (yields_cancelledResults _).bind
  rintro trace results ⟨reasons, hlength, rfl, rfl⟩
  apply (yields_perform _).bind
  rintro trace reason rfl
  apply (yields_publish _).bind
  rintro trace - rfl
  apply (yields_perform _).bind
  rintro trace detail rfl
  exact yields_pure (.cancelled hne hlength reason detail)

/-- **The trace of a run.** Whatever its collaborators and the token do, a run returns. -/
theorem yields_run : Yields (run workflow) (RunTrace workflow) := by
  rw [run]
  split_ifs with hempty
  · rw [List.isEmpty_iff] at hempty
    apply (yields_publish _).bind
    rintro trace - rfl
    apply (yields_publish _).bind
    rintro trace - rfl
    exact yields_pure (.empty hempty)
  · rw [List.isEmpty_iff] at hempty
    apply (yields_perform _).bind
    rintro trace cancelled rfl
    split_ifs with hcancelled
    · subst hcancelled
      exact yields_runCancelled hempty
    · rw [Bool.not_eq_true] at hcancelled
      subst hcancelled
      apply Yields.bind (T := fun trace _ => trace = []) (yields_pure rfl)
      rintro trace - rfl
      apply (yields_publish _).bind
      rintro trace - rfl
      apply (yields_runSteps _ _ rfl rfl).bind
      rintro trace p ⟨results, ending, hloop, hresults, hends⟩
      apply (yields_conclude hends).mono
      rintro trace' result ⟨state, error, hconcludes, rfl⟩
      have hran := RunTrace.ran hempty hloop hconcludes
      rw [hresults]
      exact hran

theorem exists_runTrace (answers : Past → (op : Op) → Answer op) (workflow : Workflow) :
    ∃ result, ((run workflow).run answers []).2 = .ok result
      ∧ RunTrace workflow ((run workflow).run answers []).1 result := by
  obtain ⟨trace, result, hrun, htrace⟩ := yields_run.run answers []
  rw [hrun]
  exact ⟨result, rfl, htrace⟩

end WorkflowEngine

end Shyam
