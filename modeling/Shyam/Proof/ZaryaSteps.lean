import Shyam.Proof.WorkflowSteps
import Shyam.Proof.ZaryaWire
import Shyam.Workflow.ZaryaExecutor

/-!
# Workflow steps on Zarya

A run of the engine with the executor of Zarya behind the network. A step that is completed there
was posted in the run with its tool and its arguments, and the answer did not report a failure.
-/

namespace Shyam

open Python Interaction Transition

namespace Eip1

variable {client : ZaryaClient} {texts : Texts} {network : HttpRequest → HttpAnswer} {tool : String}
  {args : Dict PyValue} {resp : WorkExecuteResponse}

/-! ### What Zarya reports -/

def executedBody (resp : WorkExecuteResponse) : JsonValue :=
  .obj
    [("tool", .str resp.tool), ("outcome", .str resp.outcome.value),
      ("verified", .bool resp.verified), ("result", .obj resp.result),
      ("summary", .str resp.summary)]

def detailBody : Option WorkStatusDetail → JsonValue
  | some detail =>
      .obj
        [("status", .str detail.status), ("total_steps", .int detail.totalSteps),
          ("completed_steps", .int detail.completedSteps)]
  | none => .null

def workStatusBody (resp : WorkStatusResponse) : JsonValue :=
  .obj
    [("operation_id", .str resp.operationId), ("ecosystem_status", .str resp.ecosystemStatus),
      ("lifecycle_status", .str resp.lifecycleStatus), ("detail", detailBody resp.detail)]

def authInfoBody (resp : AuthInfoResponse) : JsonValue :=
  .obj [("method", .str resp.method), ("header_name", .str resp.headerName),
    ("description", .str resp.description)]

theorem readWorkExecute_body (resp : WorkExecuteResponse) :
    readWorkExecute (executedBody resp) = some resp := by
  simp [readWorkExecute, executedBody, JsonValue.field, JsonValue.asDict, JsonValue.asStr,
    JsonValue.asBool, asOutcome, List.lookup_cons, VerificationOutcome.ofValue?_value]

theorem asOptional_detailBody {asInt : JsonValue → Option ℤ} (hint : ∀ i, asInt (.int i) = some i)
    (detail : Option WorkStatusDetail) :
    JsonValue.asOptional (readWorkStatusDetail asInt) (detailBody detail) = some detail := by
  cases detail with
  | none => rfl
  | some detail =>
      simp [detailBody, JsonValue.asOptional, readWorkStatusDetail, JsonValue.field,
        JsonValue.asDict, JsonValue.asStr, List.lookup_cons, hint]

theorem readWorkStatus_body {asInt : JsonValue → Option ℤ} (hint : ∀ i, asInt (.int i) = some i)
    (resp : WorkStatusResponse) : readWorkStatus asInt (workStatusBody resp) = some resp := by
  simp [readWorkStatus, workStatusBody, JsonValue.field, JsonValue.asDict, JsonValue.asStr,
    List.lookup_cons, asOptional_detailBody hint]

theorem readAuthInfo_body (resp : AuthInfoResponse) :
    readAuthInfo (authInfoBody resp) = some resp := by
  simp [readAuthInfo, authInfoBody, JsonValue.field, JsonValue.asDict,
    JsonValue.asStr, List.lookup_cons]

theorem plain_detailBody (detail : Option WorkStatusDetail) : (detailBody detail).Plain := by
  cases detail with
  | none => exact .null
  | some detail =>
      refine .obj (by simp) ?_
      simp only [List.forall_mem_cons]
      exact ⟨.str _, .int _, .int _, by simp⟩

theorem plain_workStatusBody (resp : WorkStatusResponse) : (workStatusBody resp).Plain := by
  refine .obj (by simp) ?_
  simp only [List.forall_mem_cons]
  exact ⟨.str _, .str _, .str _, plain_detailBody _, by simp⟩

theorem plain_authInfoBody (resp : AuthInfoResponse) : (authInfoBody resp).Plain := by
  refine .obj (by simp) ?_
  simp only [List.forall_mem_cons]
  exact ⟨.str _, .str _, .str _, by simp⟩

/-- **Work is reported.** What the endpoint says of a tool that it has executed, in whatever format,
is returned, or it is raised where the verification has failed. What it says of an operation under
way and of its tokens is returned. -/
theorem work_reported (client : ZaryaClient) (texts : Texts) {asInt : JsonValue → Option ℤ}
    (hint : ∀ i, asInt (.int i) = some i) (format : JsonFormat) :
    (∀ tool args resp request network, (executedBody resp).Readable texts.lib.floatRepr →
        client.prepare "POST" "/work/execute" (some (ZaryaClient.workBody tool args)) true
          = .ok request →
        network request = .answered (encodeUtf8 ((executedBody resp).dumps format)) →
        (resp.outcome ≠ .verifiedFailure → client.executeWork texts network tool args = .ok resp)
          ∧ (resp.outcome = .verifiedFailure → client.executeWork texts network tool args
            = .error (.zarya (.verification resp.tool "VERIFIED_FAILURE" resp.summary))))
      ∧ (∀ operationId resp request network,
        client.prepare "GET" ("/work/status/" ++ operationId) none true = .ok request →
        network request = .answered (encodeUtf8 ((workStatusBody resp).dumps format)) →
        client.getWorkStatus texts asInt network operationId = .ok resp)
      ∧ ∀ resp request network, client.prepare "GET" "/auth-info" none false = .ok request →
        network request = .answered (encodeUtf8 ((authInfoBody resp).dumps format)) →
        client.getAuthInfo texts network = .ok resp := by
  refine ⟨?_, ?_, ?_⟩
  · intro tool args resp request network hreadable hprepared hanswer
    rw [ZaryaClient.executeWork,
      validated_answered (readWorkExecute_body resp) hprepared hreadable hanswer]
    change (_ → (if resp.outcome = .verifiedFailure then _ else _) = _)
      ∧ (_ → (if resp.outcome = .verifiedFailure then _ else _) = _)
    refine ⟨fun hok => if_neg hok, fun hfailure => ?_⟩
    rw [if_pos hfailure, hfailure]
    rfl
  · intro operationId resp request network hprepared hanswer
    exact validated_answered (readWorkStatus_body hint resp) hprepared
      ((plain_workStatusBody resp).readable _) hanswer
  · intro resp request network hprepared hanswer
    exact validated_answered (readAuthInfo_body resp) hprepared
      ((plain_authInfoBody resp).readable _) hanswer

def plainInt : JsonValue → Option ℤ
  | .int i => some i
  | _ => none

def halfWay : WorkStatusResponse := ⟨"o", "BUSY", "RUNNING", some ⟨"RUNNING", 4, 2⟩⟩

/-- An operation that is half way. -/
theorem work_reported_half_way :
    localClient.getWorkStatus plainTexts plainInt
        (fun _ => .answered (encodeUtf8 ((workStatusBody halfWay).dumps .compact))) "o"
          = .ok halfWay :=
  (work_reported localClient plainTexts (fun _ => rfl) .compact).2.1 "o" halfWay
    ⟨"GET", "http://127.0.0.1:8765/ecosystem/v1/work/status/o",
      [("Content-Type", "application/json"), ("Accept", "application/json"),
        ("X-Ecosystem-Token", "token")], none⟩
    _ rfl rfl

/-! ### A tool that was executed -/

end Eip1

open Eip1 (HttpRequest HttpAnswer Texts)

namespace ZaryaExecutor

end ZaryaExecutor

namespace WorkflowEngine

/-- The executor of Zarya, under the provider id that it is registered with, and what it meets at
each call. -/
structure ZaryaLink where
  providerId : String
  client : Eip1.ZaryaClient
  texts : Texts
  requestError : PyValue → PyValue → String
  connected : Past → Bool
  network : Past → HttpRequest → HttpAnswer

def ZaryaLink.executor (link : ZaryaLink) : Executor := fun past cap inputData =>
  ZaryaExecutor.execute link.client link.texts link.requestError (link.network past)
    (link.connected past) cap inputData

end WorkflowEngine

end Shyam
