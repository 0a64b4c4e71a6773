import Shyam.Core.Validation
import Shyam.Lib.Text
import Shyam.Navigation.Models

/-!
# Workflow models

A step names a capability and never a target. What the validators of a model ensure is a field of
its structure. The times that the models carry are left out.
-/

namespace Shyam

open Python

/-! ### States -/

inductive WorkflowState where
  | pending
  | running
  | completed
  | failed
  | cancelled
deriving DecidableEq, Repr

namespace WorkflowState

def value : WorkflowState → String
  | pending => "PENDING"
  | running => "RUNNING"
  | completed => "COMPLETED"
  | failed => "FAILED"
  | cancelled => "CANCELLED"

def validTransitions : WorkflowState → List WorkflowState
  | pending => [running, cancelled]
  | running => [completed, failed, cancelled]
  | completed | failed | cancelled => []

end WorkflowState

inductive StepState where
  | pending
  | running
  | completed
  | failed
  | skipped
  | cancelled
deriving DecidableEq, Repr

inductive WorkflowFault where
  | validation (errors : ValidationErrors)
  | invalidTransition (current target : WorkflowState)
deriving DecidableEq

def validateWorkflowTransition (current target : WorkflowState) : Except WorkflowFault Unit :=
  if target ∈ current.validTransitions then .ok ()
  else .error (.invalidTransition current target)

/-! ### Steps -/

def NavigationRequest.validateCapability (v : String) : Except String String :=
  validateNamespaced ("Navigation capability must be namespaced (e.g. 'file.read'), got: '"
    ++ v ++ "'")
    v

def NavigationRequest.make (capability : String) (constraints : NavigationConstraints) :
    Except ValidationErrors NavigationRequest :=
  match validateCapability capability with
  | .ok capability => .ok ⟨capability, constraints⟩
  | .error message => .error [("capability", message)]

namespace WorkflowStep

def validateStepId : String → Except String String :=
  validateStripped "step_id must be a non-empty string"

def validateCapability (v : String) : Except String String :=
  validateNamespaced
    ("Workflow step capability must be namespaced (e.g. 'file.read'), got: '" ++ v ++ "'") v

end WorkflowStep

structure WorkflowStep where
  stepId : String
  capability : String
  constraints : NavigationConstraints
  inputData : Dict PyValue
  stepId_valid : WorkflowStep.validateStepId stepId = .ok stepId
  capability_valid : WorkflowStep.validateCapability capability = .ok capability

def WorkflowStep.make (stepId capability : String) (constraints : NavigationConstraints)
    (inputData : Dict PyValue) : Except ValidationErrors WorkflowStep :=
  match hid : validateStepId stepId, hcap : validateCapability capability with
  | .ok validId, .ok validCap =>
      .ok { stepId := validId, capability := validCap, constraints, inputData
            stepId_valid := validateStripped_idem hid
            capability_valid := validateNamespaced_idem hcap }
  | checkedId, checkedCap =>
      .error (failures "step_id" checkedId ++ failures "capability" checkedCap)

/-- Valid fields make a step as they are. -/
theorem WorkflowStep.make_eq_ok {stepId capability : String}
    (hid : validateStepId stepId = .ok stepId)
    (hcap : validateCapability capability = .ok capability) (constraints : NavigationConstraints)
    (inputData : Dict PyValue) : make stepId capability constraints inputData
      = .ok ⟨stepId, capability, constraints, inputData, hid, hcap⟩ := by
  rw [make]
  split
  next validId validCap hid' hcap' =>
    cases hid.symm.trans hid'
    cases hcap.symm.trans hcap'
    rfl
  next hfail => exact absurd hcap (hfail _ _ hid)

/-! ### Workflows -/

namespace Workflow

def validateName : String → Except String String := validateStripped "Workflow name cannot be empty"

def checkUnique (seen : PySet String) : List WorkflowStep → Except String Unit
  | [] => .ok ()
  | step :: rest =>
      if step.stepId ∈ seen then
        .error ("Duplicate step_id found in workflow: '" ++ step.stepId ++ "'")
      else checkUnique (seen.add step.stepId) rest

def validateUniqueSteps (steps : List WorkflowStep) : Except String (List WorkflowStep) :=
  match checkUnique .empty steps with
  | .ok () => .ok steps
  | .error message => .error message

theorem checkUnique_ok_iff {seen : PySet String} {steps : List WorkflowStep} :
    checkUnique seen steps = .ok () ↔
      (steps.map WorkflowStep.stepId).Nodup ∧ ∀ step ∈ steps, step.stepId ∉ seen := by
  induction steps generalizing seen with
  | nil => simp [checkUnique]
  | cons step rest ih =>
      rw [checkUnique, List.map_cons, List.nodup_cons, List.forall_mem_cons]
      split_ifs with hseen
      · exact iff_of_false (by simp) fun h => h.2.1 hseen
      · rw [ih]
        simp only [PySet.mem_add, not_or, List.mem_map, not_exists, not_and]
        constructor
        · rintro ⟨hnodup, hrest⟩
          refine ⟨⟨fun other hmem heq => (hrest other hmem).2 heq, hnodup⟩, hseen, ?_⟩
          exact fun other hmem => (hrest other hmem).1
        · rintro ⟨⟨hfresh, hnodup⟩, -, hrest⟩
          exact ⟨hnodup, fun other hmem => ⟨hrest other hmem, hfresh other hmem⟩⟩

theorem validateUniqueSteps_ok {steps steps' : List WorkflowStep}
    (h : validateUniqueSteps steps = .ok steps') :
    steps' = steps ∧ (steps.map WorkflowStep.stepId).Nodup := by
  rw [validateUniqueSteps] at h
  cases hcheck : checkUnique .empty steps with
  | ok u =>
      rw [hcheck] at h
      cases h
      exact ⟨rfl, (checkUnique_ok_iff.mp hcheck).1⟩
  | error message =>
      rw [hcheck] at h
      cases h

end Workflow

structure Workflow where
  workflowId : String
  name : String
  steps : List WorkflowStep
  name_valid : Workflow.validateName name = .ok name
  steps_unique : (steps.map WorkflowStep.stepId).Nodup

/-- `Workflow(...)`, with the id that its default factory draws. -/
def Workflow.make (workflowId name : String) (steps : List WorkflowStep) :
    Except ValidationErrors Workflow :=
  match hname : validateName name, hsteps : validateUniqueSteps steps with
  | .ok validName, .ok _ =>
      .ok { workflowId, name := validName, steps
            name_valid := validateStripped_idem hname
            steps_unique := (validateUniqueSteps_ok hsteps).2 }
  | checkedName, checkedSteps =>
      .error (failures "name" checkedName ++ failures "steps" checkedSteps)

theorem Workflow.exists_make_singleton {name : String} (hname : strip name ≠ "")
    (workflowId : String) (step : WorkflowStep) :
    ∃ workflow, make workflowId name [step] = .ok workflow ∧ workflow.steps = [step] := by
  have hvalid : validateName name = .ok (strip name) := by
    rw [validateName, validateStripped, if_neg]
    rintro (rfl | hempty)
    · exact hname rfl
    · exact hname hempty
  rw [make]
  split
  next => exact ⟨_, rfl, rfl⟩
  next hfail => exact absurd rfl (hfail _ _ hvalid)

/-! ### Results -/

structure StepResult where
  stepId : String
  capability : String
  state : StepState
  target : Option NavigationCandidate := none
  output : PyValue := .none
  error : Option String := none

def StepResult.isSuccess (self : StepResult) : Bool := self.state = .completed

structure WorkflowResult where
  workflowId : String
  name : String
  state : WorkflowState
  stepResults : List StepResult := []
  errorDetail : Option String := none

/-! ### Events -/

/-- What the classes of workflow events add to the common fields. -/
inductive WorkflowEvent.Kind where
  | started (stepCount : ℕ)
  | completed (completedStepsCount : ℕ)
  | failed (failedStepId error : String)
  | cancelled (reason : String)
  | stepStarted (stepId capability : String) (target : Option NavigationCandidate)
  | stepCompleted (stepId capability : String) (target : NavigationCandidate) (output : PyValue)
  | stepFailed (stepId capability error : String)
  | stepSkipped (stepId capability reason : String)

structure WorkflowEvent where
  workflowId : String
  workflowName : String
  kind : WorkflowEvent.Kind

namespace WorkflowEvent.Kind

/-- The state that a terminal event announces. -/
def terminal : Kind → Option WorkflowState
  | completed _ => some .completed
  | failed _ _ => some .failed
  | cancelled _ => some .cancelled
  | _ => none

def isStep : Kind → Bool
  | stepStarted _ _ _ | stepCompleted _ _ _ _ | stepFailed _ _ _ | stepSkipped _ _ _ => true
  | _ => false

end WorkflowEvent.Kind

end Shyam
