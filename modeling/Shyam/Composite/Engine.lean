import Shyam.Composite.Models
import Shyam.Workflow.Engine

/-!
# The composite engine

Each step of a composite runs as a workflow of its own, with its bindings resolved against the
inputs of the invocation and the outputs of the steps before it.
-/

namespace Shyam

open Python Interaction WorkflowEngine

namespace CompositeEngine

abbrev Script (α : Type) := Program Answer CompositeFault α

structure ExecutionContext where
  compositeInputs : Dict PyValue
  stepOutputs : Dict PyValue := ∅

def require (registry : Dict CompositeCapability) (capabilityId : String) :
    Except CompositeFault CompositeCapability :=
  match registry.get? capabilityId with
  | some composite => .ok composite
  | none => .error (.notFound capabilityId)

def validateInputs (composite : CompositeCapability) (inputs : Dict PyValue) :
    Except CompositeFault Unit :=
  let missing := composite.inputs.filter fun name => name ∉ inputs.keys
  if missing.isEmpty then .ok ()
  else .error (.input composite.capabilityId
    ("Missing required input(s): " ++ ", ".intercalate missing))

/-! ### Bindings -/

def locate (binding : Binding) (context : ExecutionContext) : Except BindingFailure PyValue :=
  match binding.source with
  | .input =>
      match context.compositeInputs.get? binding.sourceId with
      | some value => .ok value
      | none => .error (.inputNotFound binding.sourceId)
  | .step =>
      match context.stepOutputs.get? binding.sourceId with
      | some value => .ok value
      | none => .error (.outputNotAvailable binding.sourceId)

def extract (sourceKey : Option String) (value : PyValue) : Except BindingFailure PyValue :=
  match sourceKey with
  | none => .ok value
  | some key =>
      match value with
      | .dict fields =>
          match fields.lookup key with
          | some value => .ok value
          | none => .error (.keyNotFound key)
      | value => .error (.notDict key value)

def resolveBindingValue (binding : Binding) (stepId fieldName : String)
    (context : ExecutionContext) : Except CompositeFault PyValue :=
  (locate binding context >>= extract binding.sourceKey).mapError (.binding stepId fieldName)

def resolveEntries (stepId : String) (context : ExecutionContext) :
    List (String × Binding) → Dict PyValue → Except CompositeFault (Dict PyValue)
  | [], resolved => .ok resolved
  | (fieldName, binding) :: rest, resolved => do
      let value ← resolveBindingValue binding stepId fieldName context
      resolveEntries stepId context rest (resolved.set fieldName value)

def resolveStepBindings (step : CompositeStep) (context : ExecutionContext) :
    Except CompositeFault (Dict PyValue) :=
  resolveEntries step.stepId context step.inputBindings.entries ∅

def resolveOutputBindings (composite : CompositeCapability) (context : ExecutionContext) :
    Except CompositeFault (Dict PyValue) :=
  resolveEntries "output" context composite.outputs.entries ∅

/-! ### The invocation -/

/-- A workflow of the one step, run by the workflow engine. -/
def runStep (capabilityId : String) (context : ExecutionContext) (step : CompositeStep) :
    Script WorkflowResult := do
  let resolvedInput ← .done (resolveStepBindings step context)
  let wfStep ← .done ((WorkflowStep.make step.stepId step.capability step.constraints
    resolvedInput).mapError .validation)
  let workflowId ← perform .uuid4
  let workflow ← .done ((Workflow.make workflowId (capabilityId ++ "::" ++ step.stepId)
    [wfStep]).mapError .validation)
  (WorkflowEngine.run workflow).mapError .workflow

/-- `wf_result.error_detail or f"Step '{step.step_id}' failed"`. -/
def stepErrorDetail (step : CompositeStep) (errorDetail : Option String) : String :=
  match errorDetail with
  | some error => if error = "" then "Step '" ++ step.stepId ++ "' failed" else error
  | none => "Step '" ++ step.stepId ++ "' failed"

/-- The loop over the steps, and what follows it. -/
def runSteps (capabilityId : String) (composite : CompositeCapability) :
    List CompositeStep → ExecutionContext → List StepResult → Script CompositeResult
  | [], context, allStepResults => do
      let outputs ← .done (resolveOutputBindings composite context)
      return { capabilityId, state := "COMPLETED", outputs, stepResults := allStepResults }
  | step :: rest, context, allStepResults => do
      let cancelled ← perform .isCancelled
      if cancelled then
        let reason ← perform .reason
        return { capabilityId, state := "CANCELLED", stepResults := allStepResults
                 errorDetail := some reason }
      else
        let wfResult ← runStep capabilityId context step
        match wfResult.stepResults with
        | [] => .done (.error .noStepResult)
        | stepResult :: _ =>
            if stepResult.isSuccess then
              runSteps capabilityId composite rest
                { context with
                  stepOutputs := context.stepOutputs.set step.stepId stepResult.output }
                (allStepResults ++ [stepResult])
            else
              return { capabilityId, state := wfResult.state.value
                       stepResults := allStepResults ++ [stepResult]
                       errorDetail := some (stepErrorDetail step wfResult.errorDetail) }

def invoke (registry : Dict CompositeCapability) (capabilityId : String) (inputs : Dict PyValue) :
    Script CompositeResult := do
  let composite ← .done (require registry capabilityId)
  .done (validateInputs composite inputs)
  runSteps capabilityId composite composite.steps { compositeInputs := inputs } []

end CompositeEngine

end Shyam
