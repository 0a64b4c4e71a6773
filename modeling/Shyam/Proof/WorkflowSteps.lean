import Shyam.Proof.WorkflowEvents

/-!
# Executions in a run

A step that a run has completed has its own part in what happened: its executor was called for the
capability of the step, and returned the output.
-/

namespace Shyam

open Python Interaction Transition

namespace WorkflowEngine

/-- The capability that was asked for last; the selected target is one for it. -/
def asked (cap : String) (e : Event Answer) : String :=
  match e.op with
  | .navigate request => request.capability
  | _ => cap

/-- What an executor makes of a capability and an input, after all that has happened. -/
abbrev Executor := Past → String → Dict PyValue → Except Exc PyValue

variable {workflow : Workflow} {step : WorkflowStep} {steps : List WorkflowStep} {trace : Past}
  {result : StepResult} {results : List StepResult} {pair : WorkflowStep × StepResult}

def summary (result : WorkflowResult) : List (StepState × Option String) :=
  result.stepResults.map fun r => (r.state, r.target.map NavigationCandidate.providerId)

end WorkflowEngine

end Shyam
