import Shyam.Workflow.Models

/-!
# Composite capabilities

Steps whose input fields are bound to the inputs of the invocation or to the outputs of steps. The
checks of the id, the name and the version of a composite are left out: nothing below depends on
them.
-/

namespace Shyam

open Python

inductive BindingSource where
  | input
  | step
deriving DecidableEq, Repr

def Binding.validateSourceId : String → Except String String :=
  validateStripped "Binding source_id must be a non-empty string"

structure Binding where
  source : BindingSource
  sourceId : String
  sourceKey : Option String := none
  sourceId_valid : Binding.validateSourceId sourceId = .ok sourceId

namespace CompositeStep

def validateStepId : String → Except String String :=
  validateStripped "Composite step_id must be a non-empty string"

def validateCapability (v : String) : Except String String :=
  validateNamespaced
    ("Composite step capability must be namespaced (e.g. 'file.read'), got: '" ++ v ++ "'") v

end CompositeStep

structure CompositeStep where
  stepId : String
  capability : String
  constraints : NavigationConstraints
  inputBindings : Dict Binding
  stepId_valid : CompositeStep.validateStepId stepId = .ok stepId
  capability_valid : CompositeStep.validateCapability capability = .ok capability

namespace CompositeCapability

/-- A reference is to a declared input, or to a step id that has been seen. -/
def checkBinding (inputs : List String) (stepIds : PySet String) (undeclared unknown : String)
    (binding : Binding) : Except String Unit :=
  match binding.source with
  | .input => if binding.sourceId ∉ inputs then .error undeclared else .ok ()
  | .step => if binding.sourceId ∉ stepIds then .error unknown else .ok ()

def checkInputBinding (inputs : List String) (stepIds : PySet String) (step : CompositeStep)
    (fieldName : String) (binding : Binding) : Except String Unit :=
  checkBinding inputs stepIds
    ("Step '" ++ step.stepId ++ "' field '" ++ fieldName ++ "' binds to undeclared input '"
      ++ binding.sourceId ++ "'")
    ("Step '" ++ step.stepId ++ "' field '" ++ fieldName ++ "' references step '"
      ++ binding.sourceId
      ++ "' which has not been defined yet (steps are ordered; only prior steps may be referenced)")
    binding

def checkOutputBinding (inputs : List String) (stepIds : PySet String) (outName : String)
    (binding : Binding) : Except String Unit :=
  checkBinding inputs stepIds
    ("Output '" ++ outName ++ "' binds to undeclared input '" ++ binding.sourceId ++ "'")
    ("Output '" ++ outName ++ "' references unknown step '" ++ binding.sourceId ++ "'") binding

/-- The id of a step is added before its own bindings are checked. -/
def checkSteps (inputs : List String) (stepIds : PySet String) :
    List CompositeStep → Except String (PySet String)
  | [] => .ok stepIds
  | step :: rest =>
      if step.stepId ∈ stepIds then
        .error ("Duplicate step_id in composite: '" ++ step.stepId ++ "'")
      else do
        let stepIds := stepIds.add step.stepId
        step.inputBindings.entries.forM fun e => checkInputBinding inputs stepIds step e.1 e.2
        checkSteps inputs stepIds rest

def validateStepReferences (inputs : List String) (outputs : Dict Binding)
    (steps : List CompositeStep) : Except String Unit := do
  let stepIds ← checkSteps inputs .empty steps
  outputs.entries.forM fun e => checkOutputBinding inputs stepIds e.1 e.2

end CompositeCapability

structure CompositeCapability where
  capabilityId : String
  inputs : List String
  outputs : Dict Binding
  steps : List CompositeStep
  references_valid : CompositeCapability.validateStepReferences inputs outputs steps = .ok ()

structure CompositeResult where
  capabilityId : String
  state : String
  outputs : Dict PyValue := ∅
  stepResults : List StepResult := []
  errorDetail : Option String := none

/-! ### What is raised -/

inductive BindingFailure where
  | inputNotFound (sourceId : String)
  | outputNotAvailable (sourceId : String)
  | notDict (sourceKey : String) (value : PyValue)
  | keyNotFound (sourceKey : String)

/-- What an invocation raises: the errors of the composite subsystem, a failed validation, what the
workflow engine raises, and the `IndexError` of a result without steps. -/
inductive CompositeFault where
  | notFound (capabilityId : String)
  | input (capabilityId reason : String)
  | binding (stepId field : String) (failure : BindingFailure)
  | validation (errors : ValidationErrors)
  | workflow (fault : WorkflowFault)
  | noStepResult

end Shyam
