import Shyam.Proof.CompositeReferences
import Shyam.Proof.WorkflowCalls

/-!
# A composite and its flat workflow

When the bindings of the steps refer to inputs only, an invocation does what one workflow with the
same steps and the resolved inputs does: the same calls, and the same results up to the first
failure.
-/

namespace Shyam

open Python Interaction Program WorkflowEngine

/-- The workflow step with these values in its fields. -/
def CompositeStep.toWorkflowStep (step : CompositeStep) (inputData : Dict PyValue) :
    WorkflowStep where
  stepId := step.stepId
  capability := step.capability
  constraints := step.constraints
  inputData := inputData
  stepId_valid := validateStripped_idem step.stepId_valid
  capability_valid := validateNamespaced_idem step.capability_valid

/-- The step of the flat workflow: its fields are taken from the inputs. -/
def CompositeStep.flat (inputs : Dict PyValue) (step : CompositeStep) : WorkflowStep :=
  step.toWorkflowStep (step.inputBindings.mapValues fun binding =>
    inputs.getD binding.sourceId .none)

/-- Every field is bound to an input as a whole. -/
def CompositeStep.FromInputs (step : CompositeStep) : Prop :=
  ∀ e ∈ step.inputBindings.entries, e.2.source = .input ∧ e.2.sourceKey = none

namespace CompositeEngine

variable {collaborators : Past → (op : Op) → Answer op} {past made : Past} {capabilityId : String}
  {composite : CompositeCapability} {inputs : Dict PyValue} {context : ExecutionContext}
  {step : CompositeStep}

/-! ### Bindings -/

theorem resolveEntries_eq_ok {stepId : String} {value : Binding → PyValue}
    {entries : List (String × Binding)}
    (h : ∀ e ∈ entries, resolveBindingValue e.2 stepId e.1 context = .ok (value e.2))
    (resolved : Dict PyValue) : resolveEntries stepId context entries resolved
      = .ok (entries.foldl (fun acc e => acc.set e.1 (value e.2)) resolved) := by
  induction entries generalizing resolved with
  | nil => rfl
  | cons e rest ih =>
      rw [List.forall_mem_cons] at h
      rw [resolveEntries, h.1]
      exact ih h.2 _

theorem resolveStepBindings_eq_ok {value : Binding → PyValue}
    (h : ∀ e ∈ step.inputBindings.entries,
      resolveBindingValue e.2 step.stepId e.1 context = .ok (value e.2)) :
    resolveStepBindings step context = .ok (step.inputBindings.mapValues value) := by
  rw [resolveStepBindings, resolveEntries_eq_ok h, ← Dict.mergeWith_empty]
  rfl

theorem resolveOutputBindings_eq_ok {value : Binding → PyValue}
    (h : ∀ e ∈ composite.outputs.entries,
      resolveBindingValue e.2 "output" e.1 context = .ok (value e.2)) :
    resolveOutputBindings composite context = .ok (composite.outputs.mapValues value) := by
  rw [resolveOutputBindings, resolveEntries_eq_ok h, ← Dict.mergeWith_empty]
  rfl

theorem keys_resolveEntries {stepId : String} {entries : List (String × Binding)}
    {resolved outputs : Dict PyValue}
    (hnodup : (resolved.entries.map Prod.fst ++ entries.map Prod.fst).Nodup)
    (h : resolveEntries stepId context entries resolved = .ok outputs) :
    outputs.entries.map Prod.fst = resolved.entries.map Prod.fst ++ entries.map Prod.fst := by
  induction entries generalizing resolved with
  | nil =>
      cases h
      rw [List.map_nil, List.append_nil]
  | cons e rest ih =>
      rw [resolveEntries, Checks.bind_eq_ok_iff] at h
      obtain ⟨value, -, h⟩ := h
      have hfresh : e.1 ∉ resolved.entries.map Prod.fst := fun hmem =>
        List.disjoint_of_nodup_append hnodup hmem List.mem_cons_self
      have hkeys : (resolved.set e.1 value).entries.map Prod.fst ++ rest.map Prod.fst
          = resolved.entries.map Prod.fst ++ (e :: rest).map Prod.fst := by
        rw [Dict.entries_set_of_notMem hfresh, List.map_append, List.append_assoc]
        rfl
      rw [← hkeys] at hnodup ⊢
      exact ih hnodup h

theorem keys_resolveOutputBindings {outputs : Dict PyValue}
    (h : resolveOutputBindings composite context = .ok outputs) :
    outputs.keys = composite.outputs.keys := by
  have hnodup : ((∅ : Dict PyValue).entries.map Prod.fst
      ++ composite.outputs.entries.map Prod.fst).Nodup := composite.outputs.nodup
  have hkeys : outputs.entries.map Prod.fst = composite.outputs.entries.map Prod.fst :=
    keys_resolveEntries hnodup h
  rw [Dict.keys, Dict.keys]
  congr 1

theorem resolve_step {binding : Binding} {stepId fieldName : String}
    (hsource : binding.source = .step) (hkey : binding.sourceKey = none)
    (hmem : binding.sourceId ∈ context.stepOutputs.keys) :
    resolveBindingValue binding stepId fieldName context
      = .ok (context.stepOutputs.getD binding.sourceId .none) := by
  obtain ⟨value, hvalue⟩ := Option.isSome_iff_exists.mp (Dict.mem_keys_iff.mp hmem)
  rw [resolveBindingValue, locate, hsource, Dict.getD, hkey, hvalue]
  rfl

theorem resolve_input {binding : Binding} {stepId fieldName : String}
    (hsource : binding.source = .input) (hkey : binding.sourceKey = none)
    (hmem : binding.sourceId ∈ context.compositeInputs.keys) :
    resolveBindingValue binding stepId fieldName context
      = .ok (context.compositeInputs.getD binding.sourceId .none) := by
  obtain ⟨value, hvalue⟩ := Option.isSome_iff_exists.mp (Dict.mem_keys_iff.mp hmem)
  rw [resolveBindingValue, locate, hsource, Dict.getD, hkey, hvalue]
  rfl

/-! ### One step -/

theorem exists_stepWorkflow (workflowId capabilityId stepId : String) (step : WorkflowStep) :
    ∃ workflow, Workflow.make workflowId (capabilityId ++ "::" ++ stepId) [step] = .ok workflow
      ∧ workflow.steps = [step] := by
  apply Workflow.exists_make_singleton
  apply strip_ne_empty (c := ':')
  · rw [String.toList_append, String.toList_append, List.mem_append, List.mem_append]
    exact Or.inl (Or.inr (by decide))
  · decide

theorem consultAll_singleton (made : Past) (step : WorkflowStep) :
    consultAll collaborators made [step]
      = ((consult collaborators made step).1, [(consult collaborators made step).2]) := by
  rw [consultAll]
  dsimp only
  split_ifs
  · rw [consultAll, List.append_nil]
  · rfl

/-- The small workflow of a step does what the step does. -/
theorem performs_runStep (collaborators : Past → (op : Op) → Answer op) (capabilityId : String)
    {inputData : Dict PyValue}
    (hresolved : resolveStepBindings step context = .ok inputData) (hmade : calls past = made) :
    ∃ wfResult, Performs collaborators past (runStep capabilityId context step)
        (consult collaborators made (step.toWorkflowStep inputData)).1 (.ok wfResult)
      ∧ (∃ later, wfResult.stepResults
          = (consult collaborators made (step.toWorkflowStep inputData)).2 :: later)
      ∧ wfResult.state
        = if (consult collaborators made (step.toWorkflowStep inputData)).2.isSuccess
          then .completed else .failed := by
  rw [runStep, hresolved]
  apply (performs_pure inputData).bind_exists_quiet
  intro past₁ hpast₁
  rw [WorkflowStep.make_eq_ok (validateStripped_idem step.stepId_valid)
    (validateNamespaced_idem step.capability_valid)]
  apply (performs_pure (step.toWorkflowStep inputData)).bind_exists_quiet
  intro past₂ hpast₂
  apply (performs_quiet rfl).bind_exists_quiet
  intro past₃ hpast₃
  obtain ⟨workflow, hworkflow, hsteps⟩ := exists_stepWorkflow
    (uncancelled collaborators past₂ .uuid4) capabilityId step.stepId
      (step.toWorkflowStep inputData)
  rw [hworkflow]
  apply (performs_pure workflow).bind_exists_quiet
  intro past₄ hpast₄
  have hcalls : calls past₄ = made := by
    calc calls past₄ = calls past₃ := hpast₄
      _ = calls past₂ := hpast₃
      _ = calls past₁ := hpast₂
      _ = calls past := hpast₁
      _ = made := hmade
  obtain ⟨wfResult, hperforms, hresults, hstate⟩ := performs_run collaborators workflow hcalls
  rw [hsteps, consultAll_singleton] at hperforms hresults hstate
  refine ⟨wfResult, hperforms.mapError, ?_, ?_⟩
  · cases hlist : wfResult.stepResults with
    | nil =>
        rw [hlist] at hresults
        cases hresults
    | cons result later =>
        rw [hlist, upToFailure] at hresults
        split_ifs at hresults
        · exact ⟨later, by rw [(List.cons.inj hresults).1]⟩
        · exact ⟨later, by rw [(List.cons.inj hresults).1]⟩
  · rw [hstate]
    simp

/-! ### The loop -/

def ExecutionContext.withOutput (context : ExecutionContext) (step : CompositeStep)
    (output : PyValue) : ExecutionContext :=
  { context with stepOutputs := context.stepOutputs.set step.stepId output }

theorem mem_keys_set {α : Type} {d : Dict α} {k k' : String} {v : α} :
    k' ∈ (d.set k v).keys ↔ k' ∈ d.keys ∨ k' = k := by
  rw [Dict.mem_keys_iff, Dict.mem_keys_iff, Dict.get?_set]
  split_ifs with hsame <;> simp [hsame]

/-- The end of an invocation whose steps have come to `outcome`. -/
def Ends (capabilityId : String) (composite : CompositeCapability) (steps : List CompositeStep)
    (context : ExecutionContext) (results outcome : List StepResult)
    (result : Except CompositeFault CompositeResult) : Prop :=
  if outcome.all StepResult.isSuccess then
    ∃ context', context'.compositeInputs = context.compositeInputs
      ∧ (∀ id, id ∈ context'.stepOutputs.keys ↔
          id ∈ context.stepOutputs.keys ∨ id ∈ steps.map CompositeStep.stepId)
      ∧ result = (resolveOutputBindings composite context').map fun outputs =>
          { capabilityId, state := "COMPLETED", outputs, stepResults := results ++ outcome }
  else
    ∃ error, result = .ok { capabilityId, state := "FAILED", stepResults := results ++ outcome
                            errorDetail := some error }

/-- A successful step before the others. -/
theorem Ends.cons {rest : List CompositeStep} {results outcome : List StepResult}
    {stepResult : StepResult} {result : Except CompositeFault CompositeResult}
    (hsuccess : stepResult.isSuccess = true)
    (h : Ends capabilityId composite rest (context.withOutput step stepResult.output)
      (results ++ [stepResult]) outcome result) :
    Ends capabilityId composite (step :: rest) context results (stepResult :: outcome) result := by
  rw [Ends] at h ⊢
  rw [List.all_cons, hsuccess, Bool.true_and]
  split_ifs at h ⊢ with hall
  · obtain ⟨context', hsame, hkeys, rfl⟩ := h
    refine ⟨context', hsame, fun id => ?_, ?_⟩
    · rw [hkeys, ExecutionContext.withOutput, mem_keys_set, List.map_cons, List.mem_cons, or_assoc]
    · rw [List.append_assoc, List.singleton_append]
  · obtain ⟨error, rfl⟩ := h
    exact ⟨error, by rw [List.append_assoc, List.singleton_append]⟩

theorem performs_end (results : List StepResult) :
    ∃ result,
      Performs collaborators past (runSteps capabilityId composite [] context results) [] result
      ∧ Ends capabilityId composite [] context results [] result := by
  refine ⟨(resolveOutputBindings composite context).map fun outputs =>
    { capabilityId, state := "COMPLETED", outputs, stepResults := results }, ?_, ?_⟩
  · rw [runSteps]
    cases resolveOutputBindings composite context with
    | ok outputs => exact performs_pure _
    | error fault => exact performs_done _
  · rw [Ends, if_pos List.all_nil]
    exact ⟨context, rfl, by simp, by rw [List.append_nil]⟩

theorem resolveStepBindings_flat (hinputs : context.compositeInputs = inputs)
    (hstep : step.FromInputs)
    (hdeclared : ∀ e ∈ step.inputBindings.entries, e.2.sourceId ∈ inputs.keys) :
    resolveStepBindings step context
      = .ok (step.inputBindings.mapValues fun binding => inputs.getD binding.sourceId .none) := by
  apply resolveStepBindings_eq_ok
  intro e he
  obtain ⟨hsource, hkey⟩ := hstep e he
  rw [resolve_input hsource hkey (hinputs ▸ hdeclared e he), hinputs]

theorem performs_runSteps (steps : List CompositeStep) (results : List StepResult)
    (hinputs : context.compositeInputs = inputs)
    (hbindings : ∀ step ∈ steps, step.FromInputs)
    (hdeclared : ∀ step ∈ steps, ∀ e ∈ step.inputBindings.entries, e.2.sourceId ∈ inputs.keys)
    (hmade : calls past = made) :
    ∃ result, Performs collaborators past (runSteps capabilityId composite steps context results)
        (consultAll collaborators made (steps.map (CompositeStep.flat inputs))).1 result
      ∧ Ends capabilityId composite steps context results
        (consultAll collaborators made (steps.map (CompositeStep.flat inputs))).2 result := by
  induction steps generalizing context results past made with
  | nil =>
      rw [List.map_nil, consultAll]
      exact performs_end results
  | cons step rest ih =>
      rw [List.forall_mem_cons] at hbindings hdeclared
      have hresolved := resolveStepBindings_flat hinputs hbindings.1 hdeclared.1
      rw [List.map_cons, consultAll, runSteps]
      apply performs_tokenRead.bind_exists_quiet
      intro past₁ hpast₁
      rw [if_neg (by simp)]
      obtain ⟨wfResult, hperforms, ⟨later, hresults⟩, hstate⟩ :=
        performs_runStep collaborators capabilityId hresolved (hpast₁.trans hmade)
      change Performs _ _ _ (consult collaborators made (step.flat inputs)).1 _ at hperforms
      change _ = (consult collaborators made (step.flat inputs)).2 :: _ at hresults
      change _ = if (consult collaborators made (step.flat inputs)).2.isSuccess then _
        else _ at hstate
      generalize consult collaborators made (step.flat inputs)
        = outcome at hperforms hresults hstate ⊢
      obtain ⟨now, stepResult⟩ := outcome
      dsimp only at hperforms hresults hstate ⊢
      cases hsuccess : stepResult.isSuccess with
      | true =>
          rw [if_pos rfl]
          apply hperforms.bind_exists
          intro past₂ hpast₂
          rw [hresults]
          dsimp only
          rw [if_pos hsuccess]
          have hnow : calls past₂ = made ++ now := by rw [hpast₂, hpast₁, hmade]
          have hinputs' : (context.withOutput step stepResult.output).compositeInputs = inputs :=
            hinputs
          obtain ⟨result, hrest, hends⟩ := ih (results ++ [stepResult]) hinputs' hbindings.2
            hdeclared.2 hnow
          exact ⟨result, hrest, hends.cons hsuccess⟩
      | false =>
          rw [if_neg (by simp), ← List.append_nil now]
          apply hperforms.bind_exists
          intro past₂ _
          rw [hresults]
          dsimp only
          rw [if_neg (by simp [hsuccess])]
          refine ⟨_, performs_pure _, ?_⟩
          rw [Ends, if_neg (by simp [hsuccess]), hstate, if_neg (by simp [hsuccess])]
          exact ⟨_, rfl⟩

/-! ### The invocation -/

theorem validateInputs_eq_ok (h : ∀ name ∈ composite.inputs, name ∈ inputs.keys) :
    validateInputs composite inputs = .ok () := by
  have hmissing : (composite.inputs.filter fun name => name ∉ inputs.keys) = [] := by
    rw [List.filter_eq_nil_iff]
    intro name hname
    simp [h name hname]
  rw [validateInputs, hmissing]
  rfl

theorem sourceId_mem_inputs {steps : List CompositeStep} {stepIds : PySet String}
    (h : CompositeCapability.Ordered composite.inputs stepIds steps)
    (hbindings : ∀ step ∈ steps, step.FromInputs) :
    ∀ step ∈ steps, ∀ e ∈ step.inputBindings.entries, e.2.sourceId ∈ composite.inputs := by
  induction steps generalizing stepIds with
  | nil => simp
  | cons step rest ih =>
      obtain ⟨-, hwithin, hrest⟩ := h
      rw [List.forall_mem_cons] at hbindings ⊢
      refine ⟨fun e he => ?_, ih hrest hbindings.2⟩
      have hmem := hwithin e he
      rwa [Binding.Within, (hbindings.1 e he).1] at hmem

theorem performs_invoke (collaborators : Past → (op : Op) → Answer op)
    {registry : Dict CompositeCapability}
    (hregistered : registry.get? capabilityId = some composite)
    (hbindings : ∀ step ∈ composite.steps, step.FromInputs)
    (hinputs : ∀ name ∈ composite.inputs, name ∈ inputs.keys) :
    ∃ result, Performs collaborators [] (invoke registry capabilityId inputs)
        (consultAll collaborators [] (composite.steps.map (CompositeStep.flat inputs))).1 result
      ∧ Ends capabilityId composite composite.steps { compositeInputs := inputs } []
        (consultAll collaborators [] (composite.steps.map (CompositeStep.flat inputs))).2
          result := by
  obtain ⟨hordered, -⟩ := CompositeCapability.validateStepReferences_ok_iff.mp
    composite.references_valid
  have hdeclared := sourceId_mem_inputs hordered hbindings
  rw [invoke, require, hregistered]
  apply (performs_pure composite).bind_exists_quiet
  intro past₁ hpast₁
  rw [validateInputs_eq_ok hinputs]
  apply (performs_pure ()).bind_exists_quiet
  intro past₂ hpast₂
  exact performs_runSteps composite.steps [] rfl hbindings
    (fun step hstep e he => hinputs _ (hdeclared step hstep e he)) (hpast₂.trans hpast₁)

/-- What an invocation has in common with a flat run. Bindings of outputs that extract a key can
fail after the last step. -/
structure Agrees (composite : CompositeCapability)
    (composed : Past × Except CompositeFault CompositeResult) (flatPast : Past)
    (flatResult : WorkflowResult) : Prop where
  calls : WorkflowEngine.calls composed.1 = WorkflowEngine.calls flatPast
  state : ∀ result, composed.2 = .ok result → result.state = flatResult.state.value
  stepResults : ∀ result, composed.2 = .ok result →
    result.stepResults = upToFailure flatResult.stepResults
  outputs : ∀ result, composed.2 = .ok result →
    if flatResult.state = .completed then result.outputs.keys = composite.outputs.keys
    else result.outputs = ∅
  returns : (flatResult.state = .completed → ∀ e ∈ composite.outputs.entries,
    e.2.sourceKey = none) →
    ∃ result, composed.2 = .ok result

/-- The value of a binding that extracts no key. -/
def wholeValue (context : ExecutionContext) (binding : Binding) : PyValue :=
  match binding.source with
  | .input => context.compositeInputs.getD binding.sourceId .none
  | .step => context.stepOutputs.getD binding.sourceId .none

theorem exists_outputs (h : ∀ e ∈ composite.outputs.entries, e.2.sourceKey = none)
    (hinputs : ∀ name ∈ composite.inputs, name ∈ context.compositeInputs.keys)
    (hsteps : ∀ id ∈ composite.steps.map CompositeStep.stepId, id ∈ context.stepOutputs.keys) :
    ∃ outputs, resolveOutputBindings composite context = .ok outputs := by
  obtain ⟨-, hwithin⟩ := CompositeCapability.validateStepReferences_ok_iff.mp
    composite.references_valid
  have hvalue : ∀ e ∈ composite.outputs.entries,
      resolveBindingValue e.2 "output" e.1 context = .ok (wholeValue context e.2) := by
    intro e he
    have hmem := hwithin e he
    rw [Binding.Within] at hmem
    rw [wholeValue]
    cases hsource : e.2.source with
    | input =>
        rw [hsource] at hmem
        exact resolve_input hsource (h e he) (hinputs _ hmem)
    | step =>
        rw [hsource] at hmem
        have hid := (CompositeCapability.mem_stepIdsAfter.mp hmem).resolve_left
          (PySet.not_mem_empty _)
        exact resolve_step hsource (h e he) (hsteps _ hid)
  exact ⟨_, resolveOutputBindings_eq_ok hvalue⟩

theorem exists_of_map_eq_ok {ε α β : Type} {x : Except ε α} {f : α → β} {b : β}
    (h : x.map f = .ok b) : ∃ a, x = .ok a ∧ b = f a := by
  cases x with
  | ok a => exact ⟨a, rfl, (Except.ok.inj h).symm⟩
  | error e => cases h

theorem Ends.agrees {outcome : List StepResult} {result : Except CompositeFault CompositeResult}
    {trace flatTrace : Past} {flatResult : WorkflowResult}
    (h : Ends capabilityId composite composite.steps
      { compositeInputs := inputs } [] outcome result)
    (hinputs : ∀ name ∈ composite.inputs, name ∈ inputs.keys)
    (hupTo : upToFailure flatResult.stepResults = outcome)
    (hstate : flatResult.state = if outcome.all StepResult.isSuccess then .completed else .failed)
    (hcalls : WorkflowEngine.calls trace = WorkflowEngine.calls flatTrace) :
    Agrees composite (trace, result) flatTrace flatResult := by
  rw [Ends] at h
  split_ifs at h hstate with hall
  · obtain ⟨context, hsame, hkeys, rfl⟩ := h
    refine ⟨hcalls, ?_, ?_, ?_, ?_⟩
    · intro result hresult
      obtain ⟨outputs, -, rfl⟩ := exists_of_map_eq_ok hresult
      rw [hstate]
      rfl
    · intro result hresult
      obtain ⟨outputs, -, rfl⟩ := exists_of_map_eq_ok hresult
      exact hupTo.symm
    · intro result hresult
      obtain ⟨outputs, houtputs, rfl⟩ := exists_of_map_eq_ok hresult
      rw [if_pos hstate]
      exact keys_resolveOutputBindings houtputs
    · intro hplain
      obtain ⟨outputs, houtputs⟩ := exists_outputs (hplain hstate) (hsame ▸ hinputs)
        fun id hid => (hkeys id).mpr (Or.inr hid)
      exact ⟨_, by rw [houtputs]; rfl⟩
  · obtain ⟨error, rfl⟩ := h
    refine ⟨hcalls, ?_, ?_, ?_, fun _ => ⟨_, rfl⟩⟩
    · rintro result ⟨rfl⟩
      rw [hstate]
      rfl
    · rintro result ⟨rfl⟩
      exact hupTo.symm
    · rintro result ⟨rfl⟩
      rw [if_neg (by simp [hstate])]

/-- **Composition.** With fields bound to inputs only, an invocation agrees with the flat
workflow. -/
theorem invoke_agrees_flat (collaborators : Past → (op : Op) → Answer op)
    (registry : Dict CompositeCapability) (capabilityId : String) (composite : CompositeCapability)
    (inputs : Dict PyValue) (workflow : Workflow)
    (hregistered : registry.get? capabilityId = some composite)
    (hbindings : ∀ step ∈ composite.steps, step.FromInputs)
    (hinputs : ∀ name ∈ composite.inputs, name ∈ inputs.keys)
    (hsteps : workflow.steps = composite.steps.map (CompositeStep.flat inputs)) :
    ∃ flatResult, ((run workflow).run (uncancelled collaborators) []).2 = .ok flatResult
      ∧ Agrees composite ((invoke registry capabilityId inputs).run (uncancelled collaborators) [])
        ((run workflow).run (uncancelled collaborators) []).1 flatResult := by
  have hnil : WorkflowEngine.calls [] = [] := rfl
  obtain ⟨flatResult, ⟨flatTrace, hflat, hflatCalls⟩, hupTo, hstate⟩ :=
    performs_run collaborators workflow hnil
  obtain ⟨result, ⟨trace, hrun, hcalls⟩, hends⟩ :=
    performs_invoke collaborators hregistered hbindings
    hinputs
  rw [hsteps] at hflatCalls hupTo hstate
  rw [hflat, hrun]
  exact ⟨flatResult, rfl, hends.agrees hinputs hupTo hstate (hcalls.trans hflatCalls.symm)⟩

/-! ### A composite of one step -/

def pathBinding : Binding where
  source := .input
  sourceId := "path"
  sourceId_valid := by decide

def textBinding : Binding where
  source := .step
  sourceId := "read"
  sourceId_valid := by decide

def readComposed : CompositeStep where
  stepId := "read"
  capability := "file.read"
  constraints := {}
  inputBindings := (∅ : Dict Binding).set "file" pathBinding
  stepId_valid := by decide
  capability_valid := by decide

def loadComposite : CompositeCapability where
  capabilityId := "file.load"
  inputs := ["path"]
  outputs := (∅ : Dict Binding).set "text" textBinding
  steps := [readComposed]
  references_valid := by rfl

def loadRegistry : Dict CompositeCapability :=
  (∅ : Dict CompositeCapability).set "file.load" loadComposite

def loadInputs : Dict PyValue := (∅ : Dict PyValue).set "path" (.str "/notes")

def loadWorkflow : Workflow where
  workflowId := "wf-1"
  name := "load"
  steps := [readComposed.flat loadInputs]
  name_valid := by decide
  steps_unique := by decide

/-- A navigator that finds the local node, and an executor that reads a text. -/
def localCollaborators (_ : Past) : (op : Op) → Answer op
  | .isCancelled => false
  | .reason => ""
  | .publish _ => ()
  | .navigate _ => .ok ⟨some ⟨"local", "shyam.fs", ∅⟩, "local"⟩
  | .getExecutor _ => true
  | .execute _ _ => .ok (.str "text")
  | .uuid4 => "wf-2"

theorem invoke_agrees_flat_load :
    ∃ flatResult, ((run loadWorkflow).run (uncancelled localCollaborators) []).2 = .ok flatResult
      ∧ Agrees loadComposite
        ((invoke loadRegistry "file.load" loadInputs).run (uncancelled localCollaborators) [])
        ((run loadWorkflow).run (uncancelled localCollaborators) []).1 flatResult := by
  apply invoke_agrees_flat localCollaborators loadRegistry "file.load" loadComposite loadInputs
    loadWorkflow rfl
  · intro step hstep
    rw [List.mem_singleton.mp hstep]
    intro e he
    rw [List.mem_singleton.mp he]
    exact ⟨rfl, rfl⟩
  · intro name hname
    rw [List.mem_singleton.mp hname]
    decide
  · rfl

end CompositeEngine

end Shyam
