import Shyam.Proof.FluxWire
import Shyam.Proof.WorkflowSteps
import Shyam.Workflow.FluxExecutor

/-!
# Workflow steps on Flux

A run of the engine with the executor of Flux behind the network. A step that is completed there
rests on one request to the endpoint of its capability, and its output is what the gateway answered.
What the gateway says of a transfer is not looked at: a transfer that it reports as failed completes
the step as well.
-/

namespace Shyam

open Python Interaction Transition

open Eip1 (HttpRequest HttpAnswer Texts)
open FluxGateway

namespace FluxExecutor

variable {gateway : Gateway} {network : HttpRequest → HttpAnswer} {connected : Bool}
  {cap method path : String} {data : Option PyValue} {inputData : Dict PyValue} {output : PyValue}
  {α : Type} {model : String} {read : JsonValue → Option α} {dump : α → PyValue}

end FluxExecutor

namespace WorkflowEngine

/-- The executor of Flux, under the provider id that it is registered with, and what it meets at
each call. -/
structure FluxLink where
  providerId : String
  gateway : FluxExecutor.Gateway
  connected : Past → Bool
  network : Past → HttpRequest → HttpAnswer

def FluxLink.executor (link : FluxLink) : Executor := fun past cap inputData =>
  FluxExecutor.execute link.gateway (link.network past) (link.connected past) cap inputData

end WorkflowEngine

end Shyam
