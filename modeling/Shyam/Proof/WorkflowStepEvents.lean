import Shyam.Proof.WorkflowEvents

/-!
# The events of the steps

What is published in the loop follows the results one by one. A run whose token is cancelled from
the start never enters the loop, and publishes nothing of the steps that it cancels.
-/

namespace Shyam

open Python Interaction Program

namespace WorkflowEngine

/-- The events of the step that a result is of. -/
inductive Mirrors (result : StepResult) : List WorkflowEvent.Kind → Prop
  | completed (h : result.state = .completed) (started : Option NavigationCandidate)
      (target : NavigationCandidate) (output : PyValue) :
      Mirrors result [.stepStarted result.stepId result.capability started,
        .stepCompleted result.stepId result.capability target output]
  | failed (h : result.state = .failed) (started : Option NavigationCandidate) (error : String) :
      Mirrors result [.stepStarted result.stepId result.capability started,
        .stepFailed result.stepId result.capability error]
  | skipped (h : result.state = .skipped ∨ result.state = .cancelled) (reason : String) :
      Mirrors result [.stepSkipped result.stepId result.capability reason]

/-- The results, in their order, each with its events. -/
def MirrorsEach (events : List WorkflowEvent.Kind) (results : List StepResult) : Prop :=
  ∃ groups, List.Forall₂ Mirrors results groups
    ∧ events.filter WorkflowEvent.Kind.isStep = groups.flatten

/-- Every event of a step comes after the start of the workflow. -/
def StartsFirst (events : List WorkflowEvent.Kind) : Prop :=
  ∀ before event after, events = before ++ event :: after → event.isStep = true →
    ∃ stepCount, WorkflowEvent.Kind.started stepCount ∈ before

/-- There is a result for each step, and the events of the steps are those of the results. -/
structure StepEventsMirror (workflow : Workflow) (past : Past)
    (result : WorkflowResult) : Prop where
  results : result.stepResults.map (fun r => (r.stepId, r.capability))
    = workflow.steps.map fun step => (step.stepId, step.capability)
  events : MirrorsEach (kinds past) result.stepResults
  starts : StartsFirst (kinds past)

variable {workflow : Workflow} {step : WorkflowStep} {steps : List WorkflowStep}
  {trace trace' : Past} {result : StepResult} {results results' : List StepResult}
  {failure : Option String} {ending : Ending} {events events' : List WorkflowEvent.Kind}
  {event : WorkflowEvent.Kind}

/-! ### The events of each part -/

theorem mirrorsEach_nil (h : events.filter WorkflowEvent.Kind.isStep = []) :
    MirrorsEach events [] :=
  ⟨[], .nil, h⟩

theorem MirrorsEach.append (h : MirrorsEach events results) (h' : MirrorsEach events' results') :
    MirrorsEach (events ++ events') (results ++ results') := by
  obtain ⟨groups, hgroups, hevents⟩ := h
  obtain ⟨groups', hgroups', hevents'⟩ := h'
  refine ⟨groups ++ groups', List.rel_append hgroups hgroups', ?_⟩
  rw [List.filter_append, hevents, hevents', List.flatten_append]

theorem MirrorsEach.cons (h : MirrorsEach events results) {group : List WorkflowEvent.Kind}
    (hgroup : Mirrors result group) : MirrorsEach (group ++ events) (result :: results) := by
  have hsteps : group.filter WorkflowEvent.Kind.isStep = group := by
    cases hgroup <;> rfl
  have hsingle : MirrorsEach group [result] :=
    ⟨[group], .cons hgroup .nil, by rw [hsteps, List.flatten_singleton]⟩
  exact hsingle.append h

theorem MirrorsEach.cons_event (h : MirrorsEach events results) (hevent : event.isStep = false) :
    MirrorsEach (event :: events) results := by
  obtain ⟨groups, hgroups, hevents⟩ := h
  exact ⟨groups, hgroups, by rw [List.filter_cons_of_neg (by simp [hevent]), hevents]⟩

/-- The events of no step mirror no result. -/
theorem not_mirrorsEach (hresults : results ≠ [])
    (h : events.filter WorkflowEvent.Kind.isStep = []) :
    ¬MirrorsEach events results := by
  rintro ⟨groups, hgroups, hevents⟩
  rw [h, eq_comm, List.flatten_eq_nil_iff] at hevents
  cases hgroups with
  | nil => exact hresults rfl
  | cons hgroup hrest =>
      obtain rfl := hevents _ List.mem_cons_self
      cases hgroup

theorem StepTrace.mirrors (h : StepTrace workflow step trace result) :
    Mirrors result (WorkflowEngine.kinds trace) := by
  obtain @⟨calls, _, verdict, hcalls, hverdict⟩ := h
  have hkinds :
      WorkflowEngine.kinds
        (published workflow (.stepStarted step.stepId step.capability none) :: calls
          ++ [published workflow verdict])
        = [.stepStarted step.stepId step.capability none, verdict] := by
    cases hcalls <;> rfl
  rw [hkinds]
  cases hverdict with
  | completed target output => exact .completed rfl none target output
  | failed target error => exact .failed rfl none error

theorem CancelTrace.mirrors (h : CancelTrace workflow steps trace results) :
    MirrorsEach (kinds trace) results := by
  induction h with
  | nil => exact mirrorsEach_nil rfl
  | cons error reason h ih => exact ih.cons (.skipped (.inr rfl) _)

/-- **The loop** publishes the events of the results that it adds. -/
theorem LoopTrace.mirrors (h : LoopTrace workflow failure steps trace results ending) :
    MirrorsEach (kinds trace) results := by
  induction h with
  | completed => exact mirrorsEach_nil rfl
  | failed error => exact mirrorsEach_nil rfl
  | cancel reason h => exact h.mirrors
  | skip h ih => exact ih.cons (.skipped (.inl rfl) _)
  | succeed hstep hsuccess h ih =>
      rw [kinds_tokenRead, kinds_append]
      exact ih.cons hstep.mirrors
  | fail hstep hfailure h ih =>
      rw [kinds_tokenRead, kinds_append, kinds_published]
      exact (ih.cons_event rfl).cons hstep.mirrors

theorem Concludes.no_step {state : WorkflowState} {error : Option String}
    (h : Concludes workflow ending trace state error) :
    (kinds trace).filter WorkflowEvent.Kind.isStep = [] := by
  cases h <;> rfl

theorem startsFirst_started (stepCount : Nat) (events : List WorkflowEvent.Kind) :
    StartsFirst (.started stepCount :: events) := by
  intro before event after heq hstep
  cases before with
  | nil =>
      obtain ⟨rfl, -⟩ := List.cons.inj heq
      cases hstep
  | cons first before =>
      obtain ⟨rfl, -⟩ := List.cons.inj heq
      exact ⟨stepCount, List.mem_cons_self⟩

/-! ### The run -/

/-- The events of the steps mirror the results unless the token is cancelled
before the first step. -/
theorem RunTrace.stepEventsMirror_iff {past : Past} {runResult : WorkflowResult}
    (h : RunTrace workflow past runResult) :
    StepEventsMirror workflow past runResult ↔ workflow.steps = [] ∨ ∃ after,
      past = tokenRead false :: after := by
  have hresults := h.wellShaped.results
  cases h with
  | empty hempty =>
      refine iff_of_true ⟨hresults, mirrorsEach_nil rfl, startsFirst_started 0 _⟩ (.inl hempty)
  | @cancelled reasons hne hreasons reason detail =>
      refine iff_of_false (fun hmirror => not_mirrorsEach ?_ ?_ hmirror.events) ?_
      · intro hnil
        rw [hnil, List.map_nil, eq_comm, List.map_eq_nil_iff] at hresults
        exact hne hresults
      · rw [kinds_append, kinds_tokenRead, kinds_map_reasonRead]
        rfl
      · rintro (hempty | ⟨after, hpast⟩)
        · exact hne hempty
        · cases hpast
  | @ran trace closing results ending state error hne hloop hends =>
      refine iff_of_true ⟨hresults, ?_, ?_⟩ (.inr ⟨_, rfl⟩)
      · rw [kinds_tokenRead, kinds_published, kinds_append,
          ← List.append_nil (makeResult ..).stepResults]
        exact (hloop.mirrors.append (mirrorsEach_nil hends.no_step)).cons_event rfl
      · exact startsFirst_started _ _

theorem RunTrace.exists_tokenRead {past : Past} {runResult : WorkflowResult}
    (h : RunTrace workflow past runResult) (hne : workflow.steps ≠ []) :
    ∃ cancelled after, past = tokenRead cancelled :: after := by
  cases h with
  | empty hempty => exact absurd hempty hne
  | cancelled _ hreasons reason detail => exact ⟨true, _, rfl⟩
  | ran _ hloop hends => exact ⟨false, _, rfl⟩

/-- **The events of the steps** mirror their results if and only if the workflow has no steps or its
token is not cancelled from the start. -/
theorem run_stepEventsMirror_iff (answers : Past → (op : Op) → Answer op) (workflow : Workflow) :
    ∃ result, ((run workflow).run answers []).2 = .ok result
      ∧ (StepEventsMirror workflow ((run workflow).run answers []).1 result
        ↔ workflow.steps = [] ∨ answers [] .isCancelled = false) := by
  obtain ⟨result, hresult, htrace⟩ := exists_runTrace answers workflow
  refine ⟨result, hresult, htrace.stepEventsMirror_iff.trans (or_congr_right' fun hne => ?_)⟩
  obtain ⟨cancelled, after, hpast⟩ := htrace.exists_tokenRead hne
  have hanswer : cancelled = answers [] .isCancelled :=
    answered_run (answered_nil answers) (run workflow) [] (tokenRead cancelled) after hpast
  rw [hpast, ← hanswer]
  constructor
  · rintro ⟨after', hsame⟩
    cases hsame
    rfl
  · rintro rfl
    exact ⟨after, rfl⟩

/-- The token is cancelled from the start. -/
def cancelledBefore (_past : Past) : (op : Op) → Answer op
  | .isCancelled => true
  | .reason => "stop"
  | .publish _ => ()
  | .navigate _ => .error ⟨"RuntimeError", "down"⟩
  | .getExecutor _ => false
  | .execute _ _ => .ok .none
  | .uuid4 => "wf-1"

/-- Both steps are cancelled, and only the cancellation of the workflow is published. -/
theorem steps_cancelled_silently :
    ∃ result, ((run copyWorkflow).run cancelledBefore []).2 = .ok result
      ∧ result.stepResults.map StepResult.state = [.cancelled, .cancelled]
      ∧ kinds ((run copyWorkflow).run cancelledBefore []).1 = [.cancelled "stop"]
      ∧ ¬StepEventsMirror copyWorkflow ((run copyWorkflow).run cancelledBefore []).1 result := by
  refine ⟨_, rfl, rfl, rfl, fun hmirror => ?_⟩
  exact not_mirrorsEach (List.cons_ne_nil _ _) rfl hmirror.events

end WorkflowEngine

end Shyam
