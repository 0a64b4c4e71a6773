import Shyam.Lib.Program
import Shyam.Workflow.Models

/-!
# The workflow engine

`run` as a program. It reads the cancellation token, publishes events, and calls the navigator, the
executor registry and an executor; an answer may depend on everything that happened before. Without
a token the readings are those of a token that nobody cancels, and without a bus a publication does
nothing.
-/

namespace Shyam

open Python Interaction

namespace WorkflowEngine

/-- The operations of a run. `uuid4` draws the id of a new workflow. -/
inductive Op where
  | isCancelled
  | reason
  | publish (event : WorkflowEvent)
  | navigate (request : NavigationRequest)
  | getExecutor (providerId : String)
  | execute (target : NavigationCandidate) (inputData : Dict PyValue)
  | uuid4

/-- `getExecutor` says whether an executor is registered. -/
@[reducible] def Answer : Op → Type
  | .isCancelled => Bool
  | .reason => String
  | .publish _ => Unit
  | .navigate _ => Except Exc NavigationResult
  | .getExecutor _ => Bool
  | .execute _ _ => Except Exc PyValue
  | .uuid4 => String

abbrev Script (α : Type) := Program Answer WorkflowFault α

abbrev Past := List (Event Answer)

/-- An operation of a run; what it raises is left to the caller. -/
def perform {ε : Type} (op : Op) : Program Answer ε (Answer op) :=
  .ask op fun answer => .done (.ok answer)

def publish (workflow : Workflow) (kind : WorkflowEvent.Kind) : Script Unit :=
  perform (.publish ⟨workflow.workflowId, workflow.name, kind⟩)

/-! ### One step -/

def failure (step : WorkflowStep) (target : Option NavigationCandidate) (error : String) :
    StepResult where
  stepId := step.stepId
  capability := step.capability
  state := .failed
  target := target
  error := some error

def success (step : WorkflowStep) (target : NavigationCandidate) (output : PyValue) :
    StepResult where
  stepId := step.stepId
  capability := step.capability
  state := .completed
  target := some target
  output := output

/-- The five failing exits of `_execute_step` all end so. -/
def failStep (workflow : Workflow) (step : WorkflowStep) (target : Option NavigationCandidate)
    (error : String) : Script StepResult := do
  publish workflow (.stepFailed step.stepId step.capability error)
  return failure step target error

def dispatch (workflow : Workflow) (step : WorkflowStep) (target : NavigationCandidate) :
    Script StepResult := do
  let registered ← perform (.getExecutor target.providerId)
  if registered then
    let outcome ← perform (.execute target step.inputData)
    match outcome with
    | .ok output => do
        publish workflow (.stepCompleted step.stepId step.capability target output)
        return success step target output
    | .error exc => failStep workflow step (some target) exc.text
  else
    failStep workflow step (some target)
      ("No executor available for provider '" ++ target.providerId ++ "'")

def noSelectionText (reason : String) : String :=
  "Navigation failed to resolve target: "
    ++ (if reason = "" then "No eligible candidate available" else reason)

def executeStep (workflow : Workflow) (step : WorkflowStep) : Script StepResult := do
  publish workflow (.stepStarted step.stepId step.capability none)
  match NavigationRequest.make step.capability step.constraints with
  | .error errors => .done (.error (.validation errors))
  | .ok request => do
      let resolved ← perform (.navigate request)
      match resolved with
      | .error exc => failStep workflow step none ("Navigator invocation error: " ++ exc.text)
      | .ok navResult =>
          match navResult.selected with
          | none => failStep workflow step none (noSelectionText navResult.reason)
          | some target => dispatch workflow step target

/-! ### The loop -/

structure Progress where
  stepResults : List StepResult := []
  workflowFailed : Bool := false
  workflowError : Option String := none
  workflowCancelled : Bool := false

def Progress.add (p : Progress) (result : StepResult) : Progress :=
  { p with stepResults := p.stepResults ++ [result] }

def cancelledResult (step : WorkflowStep) (reason : String) : StepResult where
  stepId := step.stepId
  capability := step.capability
  state := .cancelled
  error := some reason

def skippedResult (step : WorkflowStep) : StepResult where
  stepId := step.stepId
  capability := step.capability
  state := .skipped
  error := some "Skipped due to earlier step failure"

/-- The token is read for the result, and read again for the event. -/
def cancelRemaining (workflow : Workflow) : List WorkflowStep → Progress → Script Progress
  | [], p => return p
  | step :: rest, p => do
      let error ← perform .reason
      let reason ← perform .reason
      publish workflow (.stepSkipped step.stepId step.capability ("Workflow cancelled: " ++ reason))
      cancelRemaining workflow rest (p.add (cancelledResult step error))

/-- `step_result.error or f"Step '{step.step_id}' failed"`. -/
def failureText (step : WorkflowStep) (result : StepResult) : String :=
  match result.error with
  | some error => if error = "" then "Step '" ++ step.stepId ++ "' failed" else error
  | none => "Step '" ++ step.stepId ++ "' failed"

def runSteps (workflow : Workflow) : List WorkflowStep → Progress → Script Progress
  | [], p => return p
  | step :: rest, p => do
      let cancelled ← perform .isCancelled
      if cancelled then
        let reason ← perform .reason
        cancelRemaining workflow (step :: rest)
          { p with workflowCancelled := true, workflowError := some reason }
      else if p.workflowFailed then
        publish workflow (.stepSkipped step.stepId step.capability "Prior step failed")
        runSteps workflow rest (p.add (skippedResult step))
      else
        let result ← executeStep workflow step
        if result.isSuccess then runSteps workflow rest (p.add result)
        else
          publish workflow (.failed step.stepId (failureText step result))
          runSteps workflow rest
            { p.add result with
              workflowFailed := true
              workflowError := some (failureText step result) }

def makeResult (workflow : Workflow) (state : WorkflowState) (stepResults : List StepResult)
    (errorDetail : Option String) : WorkflowResult where
  workflowId := workflow.workflowId
  name := workflow.name
  state := state
  stepResults := stepResults
  errorDetail := errorDetail

/-- What follows the loop. A failure has been announced in the loop. -/
def conclude (workflow : Workflow) (p : Progress) : Script WorkflowResult := do
  if p.workflowCancelled then
    let reason ← perform .reason
    publish workflow (.cancelled reason)
    return makeResult workflow .cancelled p.stepResults p.workflowError
  else if p.workflowFailed then
    return makeResult workflow .failed p.stepResults p.workflowError
  else
    publish workflow (.completed workflow.steps.length)
    return makeResult workflow .completed p.stepResults p.workflowError

/-! ### The run -/

def runEmpty (workflow : Workflow) : Script WorkflowResult := do
  publish workflow (.started 0)
  publish workflow (.completed 0)
  return makeResult workflow .completed [] none

def cancelledResults : List WorkflowStep → Script (List StepResult)
  | [] => return []
  | step :: rest => do
      let reason ← perform .reason
      let results ← cancelledResults rest
      return cancelledResult step reason :: results

/-- The token was cancelled before the run. -/
def runCancelled (workflow : Workflow) : Script WorkflowResult := do
  let stepResults ← cancelledResults workflow.steps
  let reason ← perform .reason
  publish workflow (.cancelled reason)
  let detail ← perform .reason
  return makeResult workflow .cancelled stepResults (some detail)

def run (workflow : Workflow) : Script WorkflowResult := do
  if workflow.steps.isEmpty then runEmpty workflow
  else
    let cancelled ← perform .isCancelled
    if cancelled then runCancelled workflow
    else
      let _ ← .done (validateWorkflowTransition .pending .running)
      publish workflow (.started workflow.steps.length)
      let progress ← runSteps workflow workflow.steps {}
      conclude workflow progress

end WorkflowEngine

end Shyam
