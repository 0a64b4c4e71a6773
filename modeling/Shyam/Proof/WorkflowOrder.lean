import Shyam.Proof.WorkflowEvents

/-!
# The events of one run, in order

A run publishes events of its own workflow only, its start before anything else, and some terminal
event before it returns.
-/

namespace Shyam

open Python Interaction Program Transition

def WorkflowEvent.Kind.isStarted : WorkflowEvent.Kind → Bool
  | .started _ => true
  | _ => false

theorem WorkflowEvent.Kind.terminal_of_isStarted {kind : WorkflowEvent.Kind}
    (h : kind.isStarted = true) : kind.terminal = none := by
  cases kind with
  | started stepCount => rfl
  | _ => cases h

namespace WorkflowEngine

/-- What a run has published before, and this. -/
def announce (seen : List WorkflowEvent.Kind) (e : Event Answer) : List WorkflowEvent.Kind :=
  seen ++ kinds [e]

/-- An event of this workflow, which is not its start unless nothing was published before. -/
def InOrder (workflow : Workflow) (seen : List WorkflowEvent.Kind) (e : Event Answer) : Prop :=
  ∀ event, e.op = .publish event → event.workflowId = workflow.workflowId
    ∧ (event.kind.isStarted = true → seen = [])

def Own (workflow : Workflow) (e : Event Answer) : Prop :=
  ∀ event, e.op = .publish event → event.workflowId = workflow.workflowId
    ∧ event.kind.isStarted = false

variable {workflow : Workflow} {step : WorkflowStep} {steps : List WorkflowStep} {trace past : Past}
  {result : StepResult} {results : List StepResult} {failure : Option String} {ending : Ending}

theorem run_announce (seen : List WorkflowEvent.Kind) (past : Past) :
    Transition.run announce seen past = seen ++ kinds past := by
  induction past generalizing seen with
  | nil => rw [run_nil, kinds, List.filterMap_nil, List.append_nil]
  | cons e past ih =>
      rw [run_cons, ih, announce, List.append_assoc, ← kinds_append, List.singleton_append]

/-! ### Events other than the start -/

theorem own_of_not_publish {e : Event Answer}
    (h : ∀ event, e.op ≠ .publish event) : Own workflow e :=
  fun event hevent => absurd hevent (h event)

theorem own_published {kind : WorkflowEvent.Kind} (h : kind.isStarted = false) :
    Own workflow (published workflow kind) := by
  rintro event ⟨rfl⟩
  exact ⟨rfl, h⟩

theorem own_tokenRead (cancelled : Bool) : Own workflow (tokenRead cancelled) :=
  own_of_not_publish fun _ h => nomatch h

theorem own_reasonRead (reason : String) : Own workflow (reasonRead reason) :=
  own_of_not_publish fun _ h => nomatch h

theorem Consults.isCall {calls : Past} (h : Consults step calls result) :
    ∀ e ∈ calls, e.op.isCall = true := by
  cases h <;> simp [Op.isCall]

theorem StepTrace.own (h : StepTrace workflow step trace result) : ∀ e ∈ trace, Own workflow e := by
  obtain @⟨calls, _, verdict, hcalls, hverdict⟩ := h
  rw [List.cons_append, List.forall_mem_cons, List.forall_mem_append, List.forall_mem_singleton]
  refine ⟨own_published rfl, fun e he => ?_, own_published (by cases hverdict <;> rfl)⟩
  apply own_of_not_publish
  intro event hevent
  have hcall := hcalls.isCall e he
  rw [hevent] at hcall
  cases hcall

theorem CancelTrace.own (h : CancelTrace workflow steps trace results) :
    ∀ e ∈ trace, Own workflow e := by
  induction h with
  | nil => simp
  | cons error reason h ih =>
      rw [List.forall_mem_cons, List.forall_mem_cons, List.forall_mem_cons]
      exact ⟨own_reasonRead _, own_reasonRead _, own_published rfl, ih⟩

theorem LoopTrace.own (h : LoopTrace workflow failure steps trace results ending) :
    ∀ e ∈ trace, Own workflow e := by
  induction h with
  | completed => simp
  | failed error => simp
  | cancel reason h =>
      rw [List.forall_mem_cons, List.forall_mem_cons]
      exact ⟨own_tokenRead _, own_reasonRead _, h.own⟩
  | skip h ih =>
      rw [List.forall_mem_cons, List.forall_mem_cons]
      exact ⟨own_tokenRead _, own_published rfl, ih⟩
  | succeed hstep hsuccess h ih =>
      rw [List.forall_mem_cons, List.forall_mem_append]
      exact ⟨own_tokenRead _, hstep.own, ih⟩
  | fail hstep hfailed h ih =>
      rw [List.forall_mem_cons, List.forall_mem_append, List.forall_mem_cons]
      exact ⟨own_tokenRead _, hstep.own, own_published rfl, ih⟩

theorem Concludes.own {state : WorkflowState} {error : Option String}
    (h : Concludes workflow ending trace state error) : ∀ e ∈ trace, Own workflow e := by
  cases h with
  | completed =>
      rw [List.forall_mem_singleton]
      exact own_published rfl
  | failed error => simp
  | cancelled afterFailure error reason =>
      rw [List.forall_mem_cons, List.forall_mem_singleton]
      exact ⟨own_reasonRead _, own_published rfl⟩

/-! ### The run -/

theorem along_inOrder_of_own {seen : List WorkflowEvent.Kind} (h : ∀ e ∈ past, Own workflow e) :
    Along announce (InOrder workflow) seen past := by
  apply along_of_forall
  intro e he seen event hevent
  obtain ⟨hid, hkind⟩ := h e he event hevent
  refine ⟨hid, fun hstarted => ?_⟩
  rw [hkind] at hstarted
  cases hstarted

theorem inOrder_started (stepCount : ℕ) :
    InOrder workflow [] (published workflow (.started stepCount)) := by
  rintro event ⟨rfl⟩
  exact ⟨rfl, fun _ => rfl⟩

theorem RunTrace.inOrder {runResult : WorkflowResult} (h : RunTrace workflow past runResult) :
    Along announce (InOrder workflow) [] past := by
  cases h with
  | empty hempty =>
      refine ⟨inOrder_started 0, along_inOrder_of_own ?_⟩
      rw [List.forall_mem_singleton]
      exact own_published rfl
  | @cancelled reasons hne hreasons reason detail =>
      apply along_inOrder_of_own
      rw [List.forall_mem_append, List.forall_mem_cons, List.forall_mem_map]
      refine ⟨⟨own_tokenRead _, fun _ _ => own_reasonRead _⟩, ?_⟩
      rw [List.forall_mem_cons, List.forall_mem_cons, List.forall_mem_singleton]
      exact ⟨own_reasonRead _, own_published rfl, own_reasonRead _⟩
  | ran hne hloop hends =>
      refine ⟨?_, inOrder_started _, along_inOrder_of_own ?_⟩
      · exact fun event hevent => nomatch hevent
      · rw [List.forall_mem_append]
        exact ⟨hloop.own, hends.own⟩

theorem Stops.exists_terminal {state : WorkflowState} {error : Option String} {closing : Past}
    (h : Stops workflow steps trace results ending)
    (hends : Concludes workflow ending closing state error) :
    ∃ kind ∈ kinds (trace ++ closing), kind.terminal.isSome = true := by
  rw [kinds_append]
  cases h with
  | completed =>
      cases hends
      exact ⟨_, List.mem_append_right _ List.mem_cons_self, rfl⟩
  | cancelled reason hcancel =>
      cases hends
      exact ⟨_, List.mem_append_right _ List.mem_cons_self, rfl⟩
  | @failed step rest trace trace' result results ending hstep hfailure hloop =>
      refine ⟨.failed step.stepId (failureText step result), List.mem_append_left _ ?_, rfl⟩
      rw [kinds_tokenRead, kinds_append]
      exact List.mem_append_right _ List.mem_cons_self

/-- A run that has returned has published a terminal event. -/
theorem RunTrace.exists_terminal {runResult : WorkflowResult}
    (h : RunTrace workflow past runResult) :
    ∃ kind ∈ kinds past, kind.terminal.isSome = true := by
  cases h with
  | empty hempty => exact ⟨.completed 0, List.mem_cons_of_mem _ List.mem_cons_self, rfl⟩
  | @cancelled reasons hne hreasons reason detail =>
      refine ⟨.cancelled reason, ?_, rfl⟩
      rw [kinds_append]
      exact List.mem_append_right _ List.mem_cons_self
  | ran hne hloop hends =>
      obtain ⟨done, rest, before, after, results₁, results₂, hsteps, rfl, rfl, hdone, hstops⟩ :=
        hloop.stops rfl
      obtain ⟨kind, hmem, hkind⟩ := hstops.exists_terminal hends
      refine ⟨kind, ?_, hkind⟩
      rw [kinds_tokenRead, kinds_published, List.append_assoc, kinds_append]
      exact List.mem_cons_of_mem _ (List.mem_append_right _ hmem)

end WorkflowEngine

end Shyam
