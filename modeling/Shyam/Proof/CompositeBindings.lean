import Shyam.Proof.CompositeFlat

/-!
# Bindings at run time

The validator adds the id of a step to the known ids before it checks the bindings of the step, so
it accepts a step that refers to its own output. Such a binding cannot be resolved when the step is
reached, and it is the only kind of reference that cannot.
-/

namespace Shyam

open Python Interaction Program WorkflowEngine

/-- The binding refers to the output of the step itself. -/
def CompositeStep.RefersToItself (step : CompositeStep) (binding : Binding) : Prop :=
  binding.source = .step ∧ binding.sourceId = step.stepId

/-- Apart from itself, a step refers to steps before it. -/
theorem Binding.Within.of_add {inputs : List String} {stepIds : PySet String} {step : CompositeStep}
    {binding : Binding} (hwithin : binding.Within inputs (stepIds.add step.stepId))
    (hself : ¬step.RefersToItself binding) : binding.Within inputs stepIds := by
  rw [Binding.Within] at hwithin ⊢
  cases hsource : binding.source with
  | input => rwa [hsource] at hwithin
  | step =>
      rw [hsource] at hwithin
      exact (PySet.mem_add.mp hwithin).resolve_right fun hown => hself ⟨hsource, hown⟩

namespace CompositeEngine

/-- A missing input, an output that is not there yet, or a workflow that cannot be made. -/
def Unresolved : CompositeFault → Bool
  | .binding _ _ (.inputNotFound _) => true
  | .binding _ _ (.outputNotAvailable _) => true
  | .validation _ => true
  | _ => false

def Available (context : ExecutionContext) (binding : Binding) : Prop :=
  match binding.source with
  | .input => binding.sourceId ∈ context.compositeInputs.keys
  | .step => binding.sourceId ∈ context.stepOutputs.keys

/-- It raises nothing that counts as unresolved. -/
def Safe {α : Type} : Except CompositeFault α → Prop
  | .ok _ => True
  | .error fault => Unresolved fault = false

variable {context : ExecutionContext} {composite : CompositeCapability} {capabilityId : String}
  {step : CompositeStep} {stepIds : PySet String} {inputs : Dict PyValue} {past : Past}

/-! ### References that are there -/

theorem exists_locate {binding : Binding} (h : Available context binding) :
    ∃ value, locate binding context = .ok value := by
  rw [Available] at h
  rw [locate]
  cases hsource : binding.source with
  | input =>
      rw [hsource] at h
      obtain ⟨value, hvalue⟩ := Option.isSome_iff_exists.mp (Dict.mem_keys_iff.mp h)
      exact ⟨value, by rw [hvalue]⟩
  | step =>
      rw [hsource] at h
      obtain ⟨value, hvalue⟩ := Option.isSome_iff_exists.mp (Dict.mem_keys_iff.mp h)
      exact ⟨value, by rw [hvalue]⟩

theorem safe_extract (sourceKey : Option String) (value : PyValue) (stepId fieldName : String) :
    Safe ((extract sourceKey value).mapError (.binding stepId fieldName)) := by
  cases sourceKey with
  | none => trivial
  | some key =>
      cases value with
      | dict fields =>
          cases hlookup : fields.lookup key <;> simp [extract, hlookup,
            Except.mapError, Safe, Unresolved]
      | _ => rfl

theorem safe_resolveBindingValue {binding : Binding} (h : Available context binding)
    (stepId fieldName : String) : Safe (resolveBindingValue binding stepId fieldName context) := by
  obtain ⟨value, hvalue⟩ := exists_locate h
  rw [resolveBindingValue, hvalue]
  exact safe_extract binding.sourceKey value stepId fieldName

theorem safe_resolveEntries (stepId : String) {entries : List (String × Binding)}
    (h : ∀ e ∈ entries, Available context e.2) (resolved : Dict PyValue) :
    Safe (resolveEntries stepId context entries resolved) := by
  induction entries generalizing resolved with
  | nil => trivial
  | cons e rest ih =>
      rw [List.forall_mem_cons] at h
      have hvalue := safe_resolveBindingValue h.1 stepId e.1
      rw [resolveEntries]
      cases hresolve : resolveBindingValue e.2 stepId e.1 context with
      | ok value => exact ih h.2 _
      | error fault =>
          rw [hresolve] at hvalue
          exact hvalue

/-! ### A composite without such steps -/

theorem yields_runStep {inputData : Dict PyValue}
    (hresolved : resolveStepBindings step context = .ok inputData) :
    Yields (runStep capabilityId context step) fun _ wfResult => wfResult.stepResults ≠ [] := by
  rw [runStep, hresolved]
  apply Yields.bind (T := fun _ a => a = inputData) (yields_pure rfl)
  rintro - inputData rfl
  rw [WorkflowStep.make_eq_ok (validateStripped_idem step.stepId_valid)
    (validateNamespaced_idem step.capability_valid)]
  apply Yields.bind (T := fun _ a => a = step.toWorkflowStep inputData) (yields_pure rfl)
  rintro - _ rfl
  apply (yields_ask Op.uuid4).bind
  rintro - workflowId -
  obtain ⟨workflow, hworkflow, hsteps⟩ := exists_stepWorkflow workflowId capabilityId step.stepId
    (step.toWorkflowStep inputData)
  rw [hworkflow]
  apply Yields.bind (T := fun _ a => a = workflow) (yields_pure rfl)
  rintro - _ rfl
  apply (yields_run.mapError _).mono
  intro trace wfResult htrace hempty
  have hresults := htrace.wellShaped.results
  rw [hempty, hsteps] at hresults
  cases hresults

/-- What the references of the remaining steps need. -/
structure Ready (composite : CompositeCapability) (stepIds : PySet String)
    (context : ExecutionContext) : Prop where
  inputs : ∀ name ∈ composite.inputs, name ∈ context.compositeInputs.keys
  steps : ∀ id ∈ stepIds, id ∈ context.stepOutputs.keys

theorem Ready.available {binding : Binding} (h : Ready composite stepIds context)
    (hwithin : binding.Within composite.inputs stepIds) : Available context binding := by
  rw [Binding.Within] at hwithin
  rw [Available]
  cases hsource : binding.source with
  | input =>
      rw [hsource] at hwithin
      exact h.inputs _ hwithin
  | step =>
      rw [hsource] at hwithin
      exact h.steps _ hwithin

theorem Ready.withOutput (h : Ready composite stepIds context) (output : PyValue) :
    Ready composite (stepIds.add step.stepId) (context.withOutput step output) where
  inputs := h.inputs
  steps id hid := by
    rw [ExecutionContext.withOutput, mem_keys_set]
    exact (PySet.mem_add.mp hid).imp_left (h.steps id)

theorem meets_runSteps {steps : List CompositeStep} (results : List StepResult)
    (hready : Ready composite stepIds context)
    (hordered : CompositeCapability.Ordered composite.inputs stepIds steps)
    (hself : ∀ step ∈ steps, ∀ e ∈ step.inputBindings.entries, ¬step.RefersToItself e.2)
    (houtputs : ∀ e ∈ composite.outputs.entries,
      e.2.Within composite.inputs (CompositeCapability.stepIdsAfter stepIds steps)) :
    Meets (fun _ _ => True) (fun _ result => Safe result) past
      (runSteps capabilityId composite steps context results) := by
  induction steps generalizing stepIds context results past with
  | nil =>
      have havailable : ∀ e ∈ composite.outputs.entries, Available context e.2 :=
        fun e he => hready.available (houtputs e he)
      have hsafe := safe_resolveEntries "output" havailable ∅
      rw [runSteps, resolveOutputBindings]
      cases hresolve : resolveEntries "output" context composite.outputs.entries ∅ with
      | ok outputs => trivial
      | error fault =>
          rw [hresolve] at hsafe
          exact hsafe
  | cons step rest ih =>
      obtain ⟨-, hwithin, hrest⟩ := hordered
      rw [List.forall_mem_cons] at hself
      have havailable : ∀ e ∈ step.inputBindings.entries, Available context e.2 :=
        fun e he => hready.available ((hwithin e he).of_add (hself.1 e he))
      have hsafe := safe_resolveEntries step.stepId havailable ∅
      rw [runSteps]
      apply meets_bind
      refine ⟨trivial, fun cancelled => ?_⟩
      change Meets _ _ _ (if cancelled = true then _ else _)
      split_ifs
      · exact ⟨trivial, fun reason => trivial⟩
      · apply meets_bind
        cases hresolve : resolveStepBindings step context with
        | error fault =>
            rw [runStep, hresolve]
            rw [← resolveStepBindings, hresolve] at hsafe
            exact hsafe
        | ok inputData =>
            apply (yields_runStep hresolve _).mono
            rintro past' result ⟨trace, wfResult, rfl, rfl, hresults⟩
            dsimp only
            cases hlist : wfResult.stepResults with
            | nil => exact absurd hlist hresults
            | cons stepResult later =>
                dsimp only
                split_ifs
                · exact ih _ (hready.withOutput stepResult.output) hrest hself.2 houtputs
                · trivial

/-! ### A composite with such a step -/

def sourceKeys (steps : List CompositeStep) : List String :=
  steps.flatMap fun step => step.inputBindings.entries.filterMap fun e => e.2.sourceKey

/-- A dictionary with all of them. -/
def generousValue (steps : List CompositeStep) : PyValue :=
  .dict ((sourceKeys steps).map fun key => (key, .none))

/-- Every step finds a target and an executor, which returns `value`. -/
def generous (value : PyValue) (_ : Past) : (op : Op) → Answer op
  | .isCancelled => false
  | .reason => ""
  | .publish _ => ()
  | .navigate _ => .ok ⟨some ⟨"local", "shyam.fs", ∅⟩, "local"⟩
  | .getExecutor _ => true
  | .execute _ _ => .ok value
  | .uuid4 => "wf-1"

theorem exists_extract_generousValue {steps : List CompositeStep} {binding : Binding}
    {fieldName : String} (hstep : step ∈ steps)
    (hmem : (fieldName, binding) ∈ step.inputBindings.entries) :
    ∃ value, extract binding.sourceKey (generousValue steps) = .ok value := by
  cases hkey : binding.sourceKey with
  | none => exact ⟨_, rfl⟩
  | some key =>
      have hkeys : key ∈ sourceKeys steps :=
        List.mem_flatMap.mpr ⟨step, hstep, List.mem_filterMap.mpr ⟨_, hmem, hkey⟩⟩
      rw [generousValue]
      cases hlookup : ((sourceKeys steps).map fun key => (key, PyValue.none)).lookup key with
      | some value => exact ⟨value, by simp [extract, hlookup]⟩
      | none =>
          rw [Dict.lookup_eq_none_iff, List.map_map] at hlookup
          exact absurd (List.mem_map.mpr ⟨key, hkeys, rfl⟩) hlookup

/-- Every input is `value`, and so is the output of each step that was there. -/
structure Uniform (composite : CompositeCapability) (value : PyValue) (stepIds : PySet String)
    (context : ExecutionContext) : Prop where
  inputs : ∀ name ∈ composite.inputs, context.compositeInputs.get? name = some value
  steps : ∀ id, context.stepOutputs.get? id = if id ∈ stepIds then some value else none

variable {value : PyValue}

def generousInputs (composite : CompositeCapability) : Dict PyValue :=
  .ofKeys (PySet.empty.update composite.inputs) fun _ => generousValue composite.steps

theorem mem_generousInputs (composite : CompositeCapability) :
    ∀ name ∈ composite.inputs, name ∈ (generousInputs composite).keys := by
  intro name hname
  rw [Dict.mem_keys_iff, generousInputs, Dict.get?_ofKeys,
    if_pos (PySet.mem_update.mpr (Or.inr hname))]
  rfl

theorem uniform_generousInputs (composite : CompositeCapability) :
    Uniform composite (generousValue composite.steps) .empty
      { compositeInputs := generousInputs composite } where
  inputs name hname := by
    rw [generousInputs, Dict.get?_ofKeys, if_pos (PySet.mem_update.mpr (Or.inr hname))]
  steps id := by rw [if_neg (PySet.not_mem_empty id), Dict.get?_empty]

theorem Uniform.withOutput (h : Uniform composite value stepIds context) :
    Uniform composite value (stepIds.add step.stepId) (context.withOutput step value) where
  inputs := h.inputs
  steps id := by
    rw [ExecutionContext.withOutput, Dict.get?_set, h.steps]
    by_cases hown : id = step.stepId
    · simp [hown]
    · simp [hown]

theorem Uniform.locate {binding : Binding} (h : Uniform composite value stepIds context)
    (hwithin : binding.Within composite.inputs stepIds) : locate binding context = .ok value := by
  rw [Binding.Within] at hwithin
  rw [CompositeEngine.locate]
  cases hsource : binding.source with
  | input =>
      rw [hsource] at hwithin
      dsimp only
      rw [h.inputs _ hwithin]
  | step =>
      rw [hsource] at hwithin
      dsimp only
      rw [h.steps, if_pos hwithin]

theorem Uniform.resolveBindingValue {binding : Binding} {value' : PyValue}
    (h : Uniform composite value stepIds context)
    (hwithin : binding.Within composite.inputs stepIds)
    (hextract : extract binding.sourceKey value = .ok value') (stepId fieldName : String) :
    resolveBindingValue binding stepId fieldName context = .ok value' := by
  rw [CompositeEngine.resolveBindingValue, h.locate hwithin]
  change (extract binding.sourceKey value).mapError _ = _
  rw [hextract]
  rfl

theorem Uniform.locate_self {binding : Binding} (h : Uniform composite value stepIds context)
    (hfresh : step.stepId ∉ stepIds) (hself : step.RefersToItself binding) :
    CompositeEngine.locate binding context = .error (.outputNotAvailable step.stepId) := by
  rw [CompositeEngine.locate, hself.1, hself.2]
  dsimp only
  rw [h.steps, if_neg hfresh]

theorem exists_resolveEntries {stepId : String} {entries : List (String × Binding)}
    (h : ∀ e ∈ entries, ∃ value, resolveBindingValue e.2 stepId e.1 context = .ok value)
    (resolved : Dict PyValue) : ∃ inputData, resolveEntries stepId context entries resolved
      = .ok inputData := by
  induction entries generalizing resolved with
  | nil => exact ⟨resolved, rfl⟩
  | cons e rest ih =>
      rw [List.forall_mem_cons] at h
      obtain ⟨⟨value, hvalue⟩, hrest⟩ := h
      rw [resolveEntries, hvalue]
      exact ih hrest _

/-- Resolution stops at the first reference to the step itself. -/
theorem exists_fault_resolveEntries {entries : List (String × Binding)}
    (huniform : Uniform composite value stepIds context) (hfresh : step.stepId ∉ stepIds)
    (hwithin : ∀ e ∈ entries, e.2.Within composite.inputs (stepIds.add step.stepId))
    (hextract : ∀ e ∈ entries, ∃ value', extract e.2.sourceKey value = .ok value')
    (hself : ∃ e ∈ entries, step.RefersToItself e.2) (resolved : Dict PyValue) :
    ∃ fault, resolveEntries step.stepId context entries resolved = .error fault
      ∧ Unresolved fault = true := by
  induction entries generalizing resolved with
  | nil =>
      obtain ⟨e, he, -⟩ := hself
      cases he
  | cons e rest ih =>
      rw [List.forall_mem_cons] at hwithin hextract
      rw [resolveEntries]
      by_cases hown : step.RefersToItself e.2
      · refine ⟨.binding step.stepId e.1 (.outputNotAvailable step.stepId), ?_, rfl⟩
        rw [resolveBindingValue, huniform.locate_self hfresh hown]
        rfl
      · obtain ⟨value', hvalue⟩ := hextract.1
        rw [List.exists_mem_cons_iff] at hself
        rw [huniform.resolveBindingValue (hwithin.1.of_add hown) hvalue]
        exact ih hwithin.2 hextract.2 (hself.resolve_left hown) _

theorem exists_fault_runSteps {steps : List CompositeStep} (results : List StepResult)
    (huniform : Uniform composite value stepIds context)
    (hordered : CompositeCapability.Ordered composite.inputs stepIds steps)
    (hextract : ∀ step ∈ steps, ∀ e ∈ step.inputBindings.entries,
      ∃ value', extract e.2.sourceKey value = .ok value')
    (hself : ∃ step ∈ steps, ∃ e ∈ step.inputBindings.entries, step.RefersToItself e.2) :
    ∃ fault, ((runSteps capabilityId composite steps context results).run
        (uncancelled (generous value)) past).2 = .error fault ∧ Unresolved fault = true := by
  induction steps generalizing stepIds context results past with
  | nil =>
      obtain ⟨step, hstep, -⟩ := hself
      cases hstep
  | cons step rest ih =>
      obtain ⟨hfresh, hwithin, hrest⟩ := hordered
      rw [List.forall_mem_cons] at hextract
      obtain ⟨trace, hread, -⟩ : Performs (generous value) past
          (perform .isCancelled : Script Bool) [] (.ok false) := performs_tokenRead
      rw [runSteps, run_bind_of_ok hread, if_neg (by simp)]
      by_cases hown : ∃ e ∈ step.inputBindings.entries, step.RefersToItself e.2
      · obtain ⟨fault, hresolve, hfault⟩ := exists_fault_resolveEntries huniform hfresh hwithin
          hextract.1 hown ∅
        refine ⟨fault, ?_, hfault⟩
        have hstep : runStep capabilityId context step = .done (.error fault) := by
          rw [runStep, resolveStepBindings, hresolve]
          rfl
        rw [hstep]
        rfl
      · have hresolve : ∀ e ∈ step.inputBindings.entries, ∃ value',
            resolveBindingValue e.2 step.stepId e.1 context = .ok value' := by
          intro e he
          obtain ⟨value', hvalue⟩ := hextract.1 e he
          have hbefore := (hwithin e he).of_add fun hrefers => hown ⟨e, he, hrefers⟩
          exact ⟨value', huniform.resolveBindingValue hbefore hvalue step.stepId e.1⟩
        obtain ⟨inputData, hresolved⟩ := exists_resolveEntries hresolve ∅
        obtain ⟨wfResult, ⟨trace', hrun, -⟩, ⟨later, hresults⟩, -⟩ :=
          performs_runStep (generous value) capabilityId hresolved rfl
        rw [List.exists_mem_cons_iff] at hself
        rw [run_bind_of_ok hrun, hresults]
        exact ih _ huniform.withOutput hrest hextract.2 (hself.resolve_left hown)

/-- **Bindings.** An invocation with all inputs never meets an unresolved reference, whatever the
collaborators and the token do, exactly when no step refers to its own output. -/
theorem invoke_unresolved_iff (registry : Dict CompositeCapability) (capabilityId : String)
    (composite : CompositeCapability) (hregistered : registry.get? capabilityId = some composite) :
    (∀ inputs : Dict PyValue, (∀ name ∈ composite.inputs, name ∈ inputs.keys) →
      ∀ (answers : Past → (op : Op) → Answer op) (fault : CompositeFault),
        ((invoke registry capabilityId inputs).run answers []).2 = .error fault →
          Unresolved fault = false)
      ↔ ∀ step ∈ composite.steps, ∀ e ∈ step.inputBindings.entries, ¬step.RefersToItself e.2 := by
  obtain ⟨hordered, houtputs⟩ := CompositeCapability.validateStepReferences_ok_iff.mp
    composite.references_valid
  have hinvoke : ∀ inputs : Dict PyValue, (∀ name ∈ composite.inputs, name ∈ inputs.keys) →
      invoke registry capabilityId inputs
        = runSteps capabilityId composite composite.steps { compositeInputs := inputs } [] := by
    intro inputs hinputs
    rw [invoke, require, hregistered]
    change (done (validateInputs composite inputs) >>= _) = _
    rw [validateInputs_eq_ok hinputs]
    rfl
  constructor
  · intro hnever
    by_contra hself
    simp only [not_forall, not_not, exists_prop] at hself
    have huniform := uniform_generousInputs composite
    obtain ⟨fault, hfault, hunresolved⟩ : ∃ fault, ((runSteps capabilityId composite composite.steps
        { compositeInputs := generousInputs composite } []).run
          (uncancelled (generous (generousValue composite.steps))) []).2 = .error fault
        ∧ Unresolved fault = true :=
      exists_fault_runSteps [] huniform hordered
        (fun step hstep e he => exists_extract_generousValue hstep he) hself
    rw [← hinvoke _ (mem_generousInputs composite)] at hfault
    rw [hnever _ (mem_generousInputs composite) _ fault hfault] at hunresolved
    cases hunresolved
  · intro hself inputs hinputs answers fault hfault
    have hready : Ready composite .empty { compositeInputs := inputs } :=
      ⟨hinputs, fun id hid => absurd hid (PySet.not_mem_empty id)⟩
    have hmeets : Meets (fun _ _ => True) (fun _ result => Safe result) []
        (runSteps capabilityId composite composite.steps { compositeInputs := inputs } []) :=
      meets_runSteps [] hready hordered hself houtputs
    rw [hinvoke inputs hinputs] at hfault
    have hsafe := hmeets.run answers
    rw [hfault] at hsafe
    exact hsafe

theorem invoke_unresolved_load :
    (∀ inputs : Dict PyValue, (∀ name ∈ loadComposite.inputs, name ∈ inputs.keys) →
      ∀ (answers : Past → (op : Op) → Answer op) (fault : CompositeFault),
        ((invoke loadRegistry "file.load" inputs).run answers []).2 = .error fault →
          Unresolved fault = false)
      ↔ ∀ step ∈ loadComposite.steps, ∀ e ∈ step.inputBindings.entries, ¬step.RefersToItself e.2 :=
  invoke_unresolved_iff loadRegistry "file.load" loadComposite rfl

/-! ### A step bound to its own output -/

def readItself : CompositeStep :=
  { readComposed with inputBindings := (∅ : Dict Binding).set "file" textBinding }

/-- The validator accepts it. -/
def loopComposite : CompositeCapability where
  capabilityId := "file.loop"
  inputs := []
  outputs := ∅
  steps := [readItself]
  references_valid := by rfl

/-- Its first step cannot be reached with its binding resolved. -/
theorem invoke_loop_unresolved :
    ∃ fault,
      ((invoke ((∅ : Dict CompositeCapability).set "file.loop" loopComposite) "file.loop" ∅).run
        localCollaborators []).2 = .error fault ∧ Unresolved fault = true :=
  ⟨.binding "read" "file" (.outputNotAvailable "read"), rfl, rfl⟩

end CompositeEngine

end Shyam
