import Shyam.Discovery.Ecosystem
import Shyam.Providers.ZaryaRequests
import Shyam.Workflow.Executors

/-!
# The Zarya executor

How a step is executed on Zarya: the tool and its arguments are taken from the input of the step,
and the response is the output.
-/

namespace Shyam

open Python

open Eip1 (HttpRequest HttpAnswer Texts Raised WorkExecuteResponse)

namespace ZaryaExecutor

def toolName (cap : String) (inputData : Dict PyValue) : PyValue :=
  (inputData.get? "tool").getD (.str cap)

/-- The whole input but the tool, where it names no arguments. -/
def args (inputData : Dict PyValue) : PyValue :=
  (inputData.get? "args").getD (.dict (inputData.entries.filter fun entry => entry.1 ≠ "tool"))

/-- `WorkExecuteRequest(tool=tool, args=args or {})`. -/
def workRequest (tool args : PyValue) : Option (String × Dict PyValue) :=
  match tool, if args.truthy then args else .dict [] with
  | .str tool, .dict fields => some (tool, dictOf fields)
  | _, _ => none

/-- `response.model_dump()`. -/
def modelDump (resp : WorkExecuteResponse) : PyValue :=
  .dict
    [("tool", .str resp.tool), ("outcome", .str resp.outcome.value),
      ("verified", .bool resp.verified), ("result", .dict (PyValue.ofJsonFields resp.result)),
      ("summary", .str resp.summary)]

variable (client : Eip1.ZaryaClient) (texts : Texts) (requestError : PyValue → PyValue → String)
  (network : HttpRequest → HttpAnswer) (connected : Bool)

/-- `execute` of the provider; `requestError` is the text for a request that is none. -/
def provide (tool args : PyValue) : Except Exc WorkExecuteResponse :=
  if connected then
    match workRequest tool args with
    | some (tool, args) => (client.executeWork texts network tool args).mapError Raised.exc
    | none => .error ⟨"ValidationError", requestError tool args⟩
  else .error ZaryaProvider.notConnected

/-- Whatever is raised is wrapped. -/
def execute (cap : String) (inputData : Dict PyValue) : Except Exc PyValue :=
  match provide client texts requestError network connected (toolName cap inputData)
    (args inputData) with
  | .ok resp => .ok (modelDump resp)
  | .error exc => .error (stepExecutionError cap exc.text)

end ZaryaExecutor

end Shyam
