import Shyam.Composite.Engine
import Shyam.Lib.Checks

/-!
# References of a composite

What the validator of a composite ensures of its bindings, and when a binding is resolved.
-/

namespace Shyam

open Python Checks

/-- The binding refers to a declared input, or to one of these steps. -/
def Binding.Within (inputs : List String) (stepIds : PySet String) (binding : Binding) : Prop :=
  match binding.source with
  | .input => binding.sourceId ∈ inputs
  | .step => binding.sourceId ∈ stepIds

namespace CompositeCapability

/-- The ids are new one after the other, and a step refers to those up to its own. -/
def Ordered (inputs : List String) : PySet String → List CompositeStep → Prop
  | _, [] => True
  | stepIds, step :: rest =>
      step.stepId ∉ stepIds
        ∧ (∀ e ∈ step.inputBindings.entries, e.2.Within inputs (stepIds.add step.stepId))
        ∧ Ordered inputs (stepIds.add step.stepId) rest

def stepIdsAfter (stepIds : PySet String) (steps : List CompositeStep) : PySet String :=
  stepIds.update (steps.map CompositeStep.stepId)

variable {inputs : List String} {stepIds stepIds' : PySet String} {steps : List CompositeStep}
  {binding : Binding}

theorem checkBinding_ok_iff {undeclared unknown : String} :
    checkBinding inputs stepIds undeclared unknown binding = .ok () ↔
      binding.Within inputs stepIds := by
  rw [checkBinding, Binding.Within]
  cases binding.source with
  | input => by_cases hmem : binding.sourceId ∈ inputs <;> simp [hmem]
  | step => by_cases hmem : binding.sourceId ∈ stepIds <;> simp [hmem]

theorem checkSteps_ok_iff : checkSteps inputs stepIds steps = .ok stepIds' ↔
    Ordered inputs stepIds steps ∧ stepIds' = stepIdsAfter stepIds steps := by
  induction steps generalizing stepIds with
  | nil =>
      rw [checkSteps, Except.ok.injEq]
      exact ⟨fun h => ⟨trivial, h.symm⟩, fun h => h.2.symm⟩
  | cons step rest ih =>
      rw [checkSteps, Ordered]
      split_ifs with hseen
      · exact iff_of_false (by simp) fun h => h.1.1 hseen
      · rw [bind_eq_ok_iff]
        simp only [forM_eq_ok_iff, checkInputBinding, checkBinding_ok_iff, ih]
        constructor
        · rintro ⟨-, hbindings, hrest, rfl⟩
          exact ⟨⟨hseen, hbindings, hrest⟩, rfl⟩
        · rintro ⟨⟨-, hbindings, hrest⟩, rfl⟩
          exact ⟨(), hbindings, hrest, rfl⟩

/-- **Validation.** Accepted are the composites whose steps are ordered and whose outputs refer to
inputs and steps of theirs. -/
theorem validateStepReferences_ok_iff {outputs : Dict Binding} :
    validateStepReferences inputs outputs steps = .ok () ↔ Ordered inputs .empty steps
      ∧ ∀ e ∈ outputs.entries, e.2.Within inputs (stepIdsAfter .empty steps) := by
  rw [validateStepReferences, bind_eq_ok_iff]
  simp only [forM_eq_ok_iff, checkOutputBinding, checkBinding_ok_iff, checkSteps_ok_iff]
  constructor
  · rintro ⟨_, ⟨hsteps, rfl⟩, houtputs⟩
    exact ⟨hsteps, houtputs⟩
  · rintro ⟨hsteps, houtputs⟩
    exact ⟨_, ⟨hsteps, rfl⟩, houtputs⟩

theorem mem_stepIdsAfter {id : String} :
    id ∈ stepIdsAfter stepIds steps ↔ id ∈ stepIds ∨ id ∈ steps.map CompositeStep.stepId :=
  PySet.mem_update

end CompositeCapability

end Shyam
