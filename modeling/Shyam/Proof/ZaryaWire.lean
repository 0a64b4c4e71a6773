import Shyam.Lib.JsonRoundTrip
import Shyam.Proof.SovereignProviders
import Shyam.Providers.ZaryaRequests

/-!
# The client of Zarya and the wire

An error that the endpoint reports in its own form keeps its code and its message on the way to the
caller, whatever the HTTP status beside it. A response comes back as it was sent. And no answer of
the network makes `connect` raise, but one that is well formed and says the wrong thing.
-/

namespace Shyam

open Python

namespace Eip1

variable {texts : Texts} {client : ZaryaClient} {asInt : JsonValue → Option ℤ}
  {network : HttpRequest → HttpAnswer} {method path : String} {data : Option PyValue}
  {authRequired : Bool} {request : HttpRequest} {value : JsonValue} {format : JsonFormat} {α : Type}
  {read : JsonValue → Option α} {model : String} {a : α}

/-! ### Bytes -/

theorem loads_dumped (hvalue : value.Readable texts.lib.floatRepr) :
    texts.lib.loads (encodeUtf8 (value.dumps format)) = .ok value := by
  rw [TextLibrary.loads, decodeUtf8_eq_some_iff.mpr rfl]
  simp only [loads_dumps format hvalue]

theorem encodeUtf8_dumps_ne_nil (hvalue : value.Readable texts.lib.floatRepr) :
    encodeUtf8 (value.dumps format) ≠ [] := by
  intro hnil
  have hempty : value.dumps format = "" := encodeUtf8_injective hnil
  have hloads := loads_dumps format hvalue
  rw [hempty] at hloads
  cases hloads

theorem request_of_prepared
    (hprepared : client.prepare method path data authRequired = .ok request) :
    client.request texts network method path data authRequired
      = client.receive texts (network request) := by
  rw [ZaryaClient.request, hprepared]
  rfl

theorem request_of_answered (hprepared : client.prepare method path data authRequired = .ok request)
    (hvalue : value.Readable texts.lib.floatRepr)
    (hanswer : network request = .answered (encodeUtf8 (value.dumps format))) :
    client.request texts network method path data authRequired = .ok value := by
  rw [request_of_prepared hprepared, hanswer]
  cases hbody : encodeUtf8 (value.dumps format) with
  | nil => exact absurd hbody (encodeUtf8_dumps_ne_nil hvalue)
  | cons b bs =>
      have hloads : texts.lib.loads (encodeUtf8 (value.dumps format)) = .ok value :=
        loads_dumped hvalue
      rw [hbody] at hloads
      simp only [ZaryaClient.receive, hloads]

theorem validated_eq_ok {answer : Except Raised JsonValue} :
    validated texts model read answer = .ok a ↔ ∃ value,
      answer = .ok value ∧ read value = some a := by
  cases answer with
  | error raised =>
      refine iff_of_false (fun h => by cases h) ?_
      rintro ⟨_, h, -⟩
      cases h
  | ok value =>
      rw [validated]
      cases hread : read value with
      | none =>
          refine iff_of_false (fun h => by cases h) ?_
          rintro ⟨_, ⟨⟩, hsome⟩
          rw [hread] at hsome
          cases hsome
      | some v =>
          constructor
          · rintro ⟨⟩
            exact ⟨value, rfl, hread⟩
          · rintro ⟨_, ⟨⟩, hsome⟩
            rw [hread] at hsome
            exact congrArg Except.ok (Option.some.inj hsome)

/-- A model that reads its own JSON form reads it off the wire. -/
theorem validated_answered (hread : read value = some a)
    (hprepared : client.prepare method path data authRequired = .ok request)
    (hvalue : value.Readable texts.lib.floatRepr)
    (hanswer : network request = .answered (encodeUtf8 (value.dumps format))) :
    validated texts model read (client.request texts network method path data authRequired)
      = .ok a :=
  validated_eq_ok.mpr ⟨value, request_of_answered hprepared hvalue hanswer, hread⟩

/-- What is validated was answered, where an empty body stands for an empty object. -/
theorem answered_of_validated
    (h : validated texts model read (client.request texts network method path data authRequired)
      = .ok a) :
    ∃ request body value, client.prepare method path data authRequired = .ok request
      ∧ network request = .answered body
      ∧ (body = [] ∧ value = .obj [] ∨ texts.lib.loads body = .ok value)
      ∧ read value = some a := by
  obtain ⟨value, h, hread⟩ := validated_eq_ok.mp h
  cases hprepared : client.prepare method path data authRequired with
  | error raised =>
      rw [ZaryaClient.request, hprepared] at h
      cases h
  | ok request =>
      rw [request_of_prepared hprepared] at h
      cases hanswer : network request with
      | httpError status reason body | urlError reason | raised exc | notAUrl exc =>
          rw [hanswer] at h
          cases h
      | answered body =>
          rw [hanswer] at h
          cases body with
          | nil =>
              cases h
              exact ⟨request, [], .obj [], rfl, hanswer, .inl ⟨rfl, rfl⟩, hread⟩
          | cons b bs =>
              cases hloads : texts.lib.loads (b :: bs) with
              | error exc =>
                  simp only [ZaryaClient.receive, hloads] at h
                  cases h
              | ok loaded =>
                  simp only [ZaryaClient.receive, hloads] at h
                  cases h
                  exact ⟨request, b :: bs, value, rfl, hanswer, .inr hloads, hread⟩

/-! ### Errors that the endpoint reports -/

/-- What the endpoint sends: `{"detail": {"error": {"code": ..., "message": ..., "detail":
...}}}`. -/
def EcosystemErrorDetail.body (err : EcosystemErrorDetail) : JsonValue :=
  .obj
    [("detail", .obj
      [("error", .obj
        [("code", .str err.code.value), ("message", .str err.message),
          ("detail", .obj err.detail)])])]

theorem handleStructuredError_body (status : ℤ) (err : EcosystemErrorDetail) :
    handleStructuredError texts status err.body = some (errorOf status err) := by
  have henvelope : readEnvelope (.obj [("error", .obj
      [("code", .str err.code.value), ("message", .str err.message), ("detail", .obj err.detail)])])
        = some err := by
    simp [readEnvelope, JsonValue.field, JsonValue.asDict, JsonValue.asStr, List.lookup_cons,
      EcosystemErrorCode.ofValue?_value]
  simp [handleStructuredError, EcosystemErrorDetail.body, JsonValue.asDict, hasError, henvelope]

/-- The codes that have a class of their own, with the status that the class stands for. -/
def classStatus : EcosystemErrorCode → Option ℤ
  | .unauthorized => some 401
  | .toolNotAllowed => some 403
  | .busy | .unavailable => some 503
  | _ => none

/-- What of a reported error reaches the caller. -/
structure Preserves (status : ℤ) (err : EcosystemErrorDetail)
    (error : ZaryaClientError) : Prop where
  code : error.code = some err.code
  message : err.code ≠ .toolNotAllowed → error.message = err.message
  httpStatus : error.httpStatus = some ((classStatus err.code).getD status)
  authentication : error.cls = .authentication ↔ err.code = .unauthorized
  busy : error.cls = .busy ↔ err.code = .busy
  unavailable : error.cls = .unavailable ↔ err.code = .unavailable
  allowed : (∃ tool allowedTools, error.cls = .toolNotAllowed tool allowedTools)
    ↔ err.code = .toolNotAllowed
  detail : classStatus err.code = none → error.detail = .obj err.detail

theorem preserves_errorOf (status : ℤ) (err : EcosystemErrorDetail) :
    Preserves status err (errorOf status err) := by
  obtain ⟨code, message, detail⟩ := err
  constructor
  all_goals
    cases code <;>
      simp [errorOf, classStatus, ZaryaClientError.authentication, ZaryaClientError.toolNotAllowed,
        ZaryaClientError.busy, ZaryaClientError.unavailable]

/-- **Errors keep their meaning.** Whatever the HTTP status, and in whatever format the body is
written, an error that the endpoint reports is raised with its code and its message, as the class of
its code. -/
theorem structured_error_preserved
    (hprepared : client.prepare method path data authRequired = .ok request)
    {err : EcosystemErrorDetail} (hreadable : err.body.Readable texts.lib.floatRepr)
    {status : ℤ} {reason : String}
    (hanswer : network request
      = .httpError status reason (.ok (encodeUtf8 (err.body.dumps format)))) :
    ∃ error, client.request texts network method path data authRequired = .error (.zarya error)
      ∧ Preserves status err error := by
  have herror : httpError texts status reason (.ok (encodeUtf8 (err.body.dumps format)))
      = errorOf status err := by
    have hloads : (Except.ok (encodeUtf8 (err.body.dumps format))).bind texts.lib.loads
      = .ok err.body :=
      loads_dumped hreadable
    rw [httpError, hloads]
    simp only [handleStructuredError_body, Option.getD_some]
  refine ⟨errorOf status err, ?_, preserves_errorOf status err⟩
  rw [request_of_prepared hprepared, hanswer, ZaryaClient.receive, herror]

def localClient : ZaryaClient := ⟨"http://127.0.0.1:8765/ecosystem/v1", "token"⟩

def plainTexts : Texts where
  lib := ⟨id, fun _ => "Expecting value", fun _ => "invalid start byte"⟩
  repr _ := "\x7b...\x7d"
  validationError model _ := "1 validation error for " ++ model

def statusRequest : HttpRequest where
  method := "GET"
  url := "http://127.0.0.1:8765/ecosystem/v1/status"
  headers := [("Content-Type", "application/json"), ("Accept", "application/json"),
    ("X-Ecosystem-Token", "token")]
  data := none

def busyError : EcosystemErrorDetail := ⟨.busy, "one operation at a time", []⟩

theorem plain_body_busyError : busyError.body.Plain := by
  refine .obj (by decide) (List.forall_mem_singleton.mpr ?_)
  refine .obj (by decide) (List.forall_mem_singleton.mpr ?_)
  refine .obj (by decide) fun f hf => ?_
  simp only [List.mem_cons, List.not_mem_nil, or_false] at hf
  rcases hf with rfl | rfl | rfl
  · exact .str _
  · exact .str _
  · exact .obj List.nodup_nil fun f hf => absurd hf List.not_mem_nil

/-- A busy instance that answers with the status 409. -/
theorem structured_error_preserved_busy : ∃ error,
    localClient.request plainTexts
        (fun _ => .httpError 409 "Conflict" (.ok (encodeUtf8 (busyError.body.dumps .compact))))
          "GET" "/status" none
        true = .error (.zarya error)
      ∧ Preserves 409 busyError error := by
  have hprepared : localClient.prepare "GET" "/status" none true = .ok statusRequest := rfl
  exact structured_error_preserved hprepared (plain_body_busyError.readable _) rfl

/-! ### Responses -/

/-- A response as the endpoint sends it. What the work came to is left out of the
response of the model. -/
def continuationBody (resp : ContinuationResponse)
    (result : List (String × JsonValue)) : JsonValue :=
  .obj
    [("operation_id", .str resp.operationId), ("outcome", .str resp.outcome.value),
      ("reconstruction_completed", .bool resp.reconstructionCompleted),
      ("execution_completed", .bool resp.executionCompleted), ("result", .obj result),
      ("summary", .str resp.summary)]

theorem readContinuation_body (resp : ContinuationResponse) (result : List (String × JsonValue)) :
    readContinuation (continuationBody resp result) = some resp := by
  simp [readContinuation, continuationBody, JsonValue.field, JsonValue.asDict, JsonValue.asStr,
    JsonValue.asBool, asOutcome, List.lookup_cons, VerificationOutcome.ofValue?_value]

/-- **Responses come back whole.** Whatever the endpoint says of the work, in whatever format and
with whatever result beside it, is what the continuity service gets to see. -/
theorem continuation_returned {provider : ZaryaProvider} {environ targetUrl : Option String}
    {zarya : Shyam.ZaryaClient} {portableWork : Dict PyValue} {sourceDeviceId continuityId : String}
    (resp : ContinuationResponse) {result : List (String × JsonValue)}
    (hclient : provider.clientFor targetUrl = .ok zarya)
    (hprepared : (client.forTarget environ zarya).prepare "POST" "/work/continue"
      (some (ZaryaClient.continuationBody portableWork sourceDeviceId continuityId)) true
        = .ok request)
    (hreadable : (continuationBody resp result).Readable texts.lib.floatRepr)
    (hanswer : network request
      = .answered (encodeUtf8 ((continuationBody resp result).dumps format))) :
    provider.continueWork (client.post texts network environ) portableWork sourceDeviceId
      continuityId targetUrl = .ok resp := by
  have hcontinued : (client.forTarget environ zarya).continueWork texts network portableWork
      sourceDeviceId continuityId = .ok resp := by
    rw [ZaryaClient.continueWork, request_of_answered hprepared hreadable hanswer]
    simp only [validated, readContinuation_body]
  calc provider.continueWork (client.post texts network environ) portableWork sourceDeviceId
          continuityId targetUrl
      = client.post texts network environ zarya portableWork sourceDeviceId continuityId := by
        rw [ZaryaProvider.continueWork, hclient]
        rfl
    _ = .ok resp := by
        rw [ZaryaClient.post, hcontinued]
        rfl

def continueRequest : HttpRequest where
  method := "POST"
  url := "http://10.0.0.2:8765/ecosystem/v1/work/continue"
  headers := [("Content-Type", "application/json"), ("Accept", "application/json"),
    ("X-Ecosystem-Token", "token")]
  data := some (encodeUtf8
    "\x7b\"portable_work\": \x7b\x7d, \"source_device_id\": \"a\", \"continuity_id\": \"c\"\x7d")

theorem plain_continuationBody (resp : ContinuationResponse) :
    (continuationBody resp []).Plain := by
  refine .obj (by simp) fun f hf => ?_
  simp only [List.mem_cons, List.not_mem_nil, or_false] at hf
  rcases hf with rfl | rfl | rfl | rfl | rfl | rfl
  · exact .str _
  · exact .str _
  · exact .bool _
  · exact .bool _
  · exact .obj List.nodup_nil fun f hf => absurd hf List.not_mem_nil
  · exact .str _

/-- A laptop that could not verify the work. -/
theorem continuation_returned_failure :
    ({ isConnected := false } : ZaryaProvider).continueWork
        (localClient.post plainTexts
          (fun _ => .answered (encodeUtf8
            ((continuationBody ⟨"o", .verifiedFailure, true, false, "tool failed"⟩ []).dumps
              .compact))) none)
        Dict.empty "a" "c" (some "http://10.0.0.2:8765/ecosystem/v1/")
      = .ok ⟨"o", .verifiedFailure, true, false, "tool failed"⟩ := by
  have hprepared :
    (localClient.forTarget none (.target "http://10.0.0.2:8765/ecosystem/v1/")).prepare "POST"
      "/work/continue" (some (ZaryaClient.continuationBody Dict.empty "a" "c")) true
        = .ok continueRequest := rfl
  exact continuation_returned _ rfl hprepared ((plain_continuationBody _).readable _) rfl

/-! ### What a request comes to -/

/-- A request that needs no data raises an error of the client, unless the URL is none. -/
theorem request_get (client : ZaryaClient) (texts : Texts)
    (hurl : ∀ request exc, network request ≠ .notAUrl exc) (path : String) (authRequired : Bool) :
    (∃ error, client.request texts network "GET" path none authRequired = .error (.zarya error))
      ∨ ∃ request value, client.prepare "GET" path none authRequired = .ok request
        ∧ client.receive texts (network request) = .ok value
        ∧ client.request texts network "GET" path none authRequired = .ok value := by
  by_cases htoken : authRequired = true ∧ client.token = ""
  · refine .inl ⟨.authentication "No ecosystem token configured.", ?_⟩
    rw [ZaryaClient.request, ZaryaClient.prepare, if_pos htoken]
    rfl
  · obtain ⟨request, hprepared⟩ : ∃ request,
      client.prepare "GET" path none authRequired = .ok request :=
      ⟨_, by rw [ZaryaClient.prepare, if_neg htoken]⟩
    rw [request_of_prepared hprepared]
    cases hanswer : network request with
    | answered body =>
        cases body with
        | nil => exact .inr ⟨request, .obj [], hprepared, by rw [hanswer]; rfl, rfl⟩
        | cons b bs =>
            cases hloads : texts.lib.loads (b :: bs) with
            | error exc => exact .inl ⟨_, by simp only [ZaryaClient.receive, hloads]; rfl⟩
            | ok value =>
                have hreceive : client.receive texts (.answered (b :: bs)) = .ok value := by
                  simp only [ZaryaClient.receive, hloads]
                exact .inr ⟨request, value, hprepared, hanswer ▸ hreceive, hreceive⟩
    | httpError status reason body => exact .inl ⟨_, rfl⟩
    | urlError reason => exact .inl ⟨_, rfl⟩
    | raised exc => exact .inl ⟨_, rfl⟩
    | notAUrl exc => exact absurd hanswer (hurl request exc)

/-! ### Connecting -/

theorem exc_zarya_mem (error : ZaryaClientError) :
    (Raised.zarya error).exc.cls ∈ Sovereign.zaryaClientErrors := by
  obtain ⟨cls, message, code, httpStatus, detail⟩ := error
  cases cls <;> simp [Raised.exc, ZaryaErrorClass.name, Sovereign.zaryaClientErrors]

/-- The requests of `connect`: the path, the model, and what it accepts. -/
def endpoints (asInt : JsonValue → Option ℤ) : List (String × String × (JsonValue → Bool)) :=
  [("/protocol", "ProtocolResponse", fun value => (readProtocol value).isSome),
    ("/identity", "IdentityResponse", fun value => (readIdentity value).isSome),
    ("/capabilities", "CapabilitiesResponse", fun value => (readCapabilities value).isSome),
    ("/status", "StatusResponse", fun value => (readStatus asInt value).isSome)]

/-- What the endpoint answers to a request of `connect`, where that is JSON. -/
def Received (client : ZaryaClient) (texts : Texts) (network : HttpRequest → HttpAnswer)
    (path : String) (value : JsonValue) : Prop :=
  ∃ request, client.prepare "GET" path none true = .ok request
    ∧ client.receive texts (network request) = .ok value

/-- What `connect` raises: the refusal of an answer, or of a capability in it. -/
inductive Escapes (db : CharacterDatabase) (client : ZaryaClient) (texts : Texts)
    (asInt : JsonValue → Option ℤ) (network : HttpRequest → HttpAnswer) :
    Sovereign.Fault → Prop where
  | misread {path model : String} {accepts : JsonValue → Bool} {value : JsonValue}
      (endpoint : (path, model, accepts) ∈ endpoints asInt)
      (received : Received client texts network path value) (refused : accepts value = false) :
      Escapes db client texts asInt network (.raised ⟨"ValidationError",
        texts.validationError model value⟩)
  | capability {value : JsonValue} {response : Sovereign.CapabilitiesResponse}
      {entry : CapabilityEntry} {errors : ValidationErrors}
      (received : Received client texts network "/capabilities" value)
      (read : readCapabilities value = some response) (mem : entry ∈ response.capabilities)
      (failed : (ZaryaReport.mapCapabilityEntryToCapability db.title entry).errors db = errors)
      (nonempty : errors ≠ []) : Escapes db client texts asInt network
        (.invalid "Capability" errors)

theorem validated_error {α : Type} {read : JsonValue → Option α} {model : String} {exc : Exc}
    (hurl : ∀ request exc, network request ≠ .notAUrl exc)
    (h : (validated texts model read (client.request texts network "GET" path none true)).mapError
      Raised.exc = .error exc) :
    exc.cls ∈ Sovereign.zaryaClientErrors
      ∨ ∃ value, Received client texts network path value ∧ (read value).isSome = false
        ∧ exc = ⟨"ValidationError", texts.validationError model value⟩ := by
  rcases request_get client texts hurl path true with
    ⟨error, herror⟩ | ⟨request, value, hprepared, hreceived, hvalue⟩
  · rw [herror] at h
    obtain rfl := Except.error.inj h
    exact .inl (exc_zarya_mem error)
  · rw [hvalue] at h
    cases hread : read value with
    | some v =>
        simp only [validated, hread] at h
        cases h
    | none =>
        simp only [validated, hread] at h
        obtain rfl := Except.error.inj h
        exact .inr ⟨value, ⟨request, hprepared, hreceived⟩, by rw [hread]; rfl, rfl⟩

theorem validated_ok {α : Type} {read : JsonValue → Option α} {model : String} {v : α}
    (hurl : ∀ request exc, network request ≠ .notAUrl exc)
    (h : (validated texts model read (client.request texts network "GET" path none true)).mapError
      Raised.exc
      = .ok v) : ∃ value, Received client texts network path value ∧ read value = some v := by
  rcases request_get client texts hurl path true with
    ⟨error, herror⟩ | ⟨request, value, hprepared, hreceived, hvalue⟩
  · rw [herror] at h
    cases h
  · rw [hvalue] at h
    refine ⟨value, ⟨request, hprepared, hreceived⟩, ?_⟩
    cases hread : read value with
    | none =>
        simp only [validated, hread] at h
        cases h
    | some w =>
        simp only [validated, hread] at h
        exact congrArg some (Except.ok.inj h)

open Sovereign in
/-- What ends the reading of the answers: one that is not there, an incompatible protocol, or a
capability. -/
theorem reading_error {db : CharacterDatabase} {answers : Sovereign.ZaryaClient} {fault : Fault}
    (h : answers.reading db = .error fault) :
    (∃ exc,
      fault = .raised exc ∧ (answers.getProtocol = .error exc ∨ answers.getIdentity = .error exc
        ∨ answers.getCapabilities = .error exc ∨ answers.getStatus = .error exc))
      ∨ (∃ proto, fault = .raised (ZaryaProvider.incompatible proto))
      ∨ ∃ response, answers.getCapabilities = .ok response
        ∧ ZaryaProvider.mapCapabilitiesResponse db response = .error fault := by
  rw [ZaryaClient.reading] at h
  cases hproto : answers.getProtocol with
  | error exc =>
      rw [hproto] at h
      exact .inl ⟨exc, (Except.error.inj h).symm, .inl rfl⟩
  | ok proto =>
      by_cases hcompatible : ZaryaProvider.expectedProtocol ∉ proto.supported
          ∧ proto.current ≠ ZaryaProvider.expectedProtocol
      · simp only [hproto, answered, bind, Except.bind, if_pos hcompatible] at h
        exact .inr (.inl ⟨proto, (Except.error.inj h).symm⟩)
      · cases hidentity : answers.getIdentity with
        | error exc =>
            simp only [hproto, hidentity, answered, bind, Except.bind, if_neg hcompatible] at h
            exact .inl ⟨exc, (Except.error.inj h).symm, .inr (.inl rfl)⟩
        | ok identity =>
            cases hresponse : answers.getCapabilities with
            | error exc =>
                simp only [hproto, hidentity, hresponse, answered, bind, Except.bind,
                  if_neg hcompatible] at h
                exact .inl ⟨exc, (Except.error.inj h).symm, .inr (.inr (.inl rfl))⟩
            | ok response =>
                cases hcaps : ZaryaProvider.mapCapabilitiesResponse db response with
                | error fault' =>
                    simp only [hproto, hidentity, hresponse, hcaps, answered, bind, Except.bind,
                      if_neg hcompatible] at h
                    exact .inr (.inr ⟨response, rfl, Except.error.inj h ▸ hcaps⟩)
                | ok caps =>
                    cases hstatus : answers.getStatus with
                    | error exc =>
                        simp only [hproto, hidentity, hresponse, hcaps, hstatus, answered, bind,
                          Except.bind, if_neg hcompatible] at h
                        exact .inl ⟨exc, (Except.error.inj h).symm, .inr (.inr (.inr rfl))⟩
                    | ok status =>
                        simp only [hproto, hidentity, hresponse, hcaps, hstatus, answered, bind,
                          Except.bind, if_neg hcompatible] at h
                        cases h

/-- **Connecting is contained.** Whatever the network does, `connect` raises for nothing but an
answer that is JSON and no instance of its model, or a capability that the node refuses: every HTTP
status, broken body and lost connection is a plain `False`. -/
theorem connect_contained (db : CharacterDatabase)
    (hurl : ∀ request exc, network request ≠ .notAUrl exc) (provider : Sovereign.ZaryaProvider)
    {fault : Sovereign.Fault}
    (hraised :
      (Sovereign.ZaryaProvider.connect db (client.sovereign texts asInt network) provider).1
      = .error fault) : Escapes db client texts asInt network fault := by
  set answers := client.sovereign texts asInt network with hanswers
  obtain ⟨hreading, hescapes⟩ : answers.reading db = .error fault
      ∧ fault.isOf Sovereign.zaryaClientErrors = false := by
    unfold Sovereign.ZaryaProvider.connect Sovereign.connectBy at hraised
    rcases Sovereign.ZaryaProvider.negotiate_spec db answers provider with
      ⟨identity, response, status, caps, -, -, hnegotiate⟩ | ⟨fault', hreading, hnegotiate, -⟩
    · rw [hnegotiate] at hraised
      cases hraised
    · rcases hresult : Sovereign.ZaryaProvider.negotiate db answers provider
        with ⟨outcome, provider'⟩
      rw [hresult] at hnegotiate hraised
      obtain rfl : outcome = .error fault' := hnegotiate
      cases hcontained : fault'.isOf Sovereign.zaryaClientErrors with
      | true =>
          simp only [hcontained, if_true] at hraised
          cases hraised
      | false =>
          simp only [hcontained, Bool.false_eq_true, if_false] at hraised
          obtain rfl := Except.error.inj hraised
          exact ⟨hreading, hcontained⟩
  have hraised {exc : Exc} (hfault : fault = .raised exc) : exc.cls ∉
      Sovereign.zaryaClientErrors := by
    subst hfault
    simpa [Sovereign.Fault.isOf] using hescapes
  rcases reading_error hreading with ⟨exc, hfault, hrequest⟩ | ⟨proto, hfault⟩
    | ⟨response, hresponse, hcaps⟩
  · have hnone := hraised hfault
    -- one of the four requests, whose answer the model refuses
    have hmisread : ∃ path model accepts value, (path, model, accepts) ∈ endpoints asInt
        ∧ Received client texts network path value ∧ accepts value = false
        ∧ exc = ⟨"ValidationError", texts.validationError model value⟩ := by
      rcases hrequest with h | h | h | h
      · obtain ⟨value, hreceived, hrefused, hexc⟩ := (validated_error hurl h).resolve_left hnone
        exact ⟨_, _, _, value, List.mem_cons_self, hreceived, hrefused, hexc⟩
      · obtain ⟨value, hreceived, hrefused, hexc⟩ := (validated_error hurl h).resolve_left hnone
        exact ⟨_, _, _, value, List.mem_cons_of_mem _ List.mem_cons_self, hreceived, hrefused, hexc⟩
      · obtain ⟨value, hreceived, hrefused, hexc⟩ := (validated_error hurl h).resolve_left hnone
        exact ⟨_, _, _, value, List.mem_cons_of_mem _ (List.mem_cons_of_mem _ List.mem_cons_self),
          hreceived, hrefused, hexc⟩
      · obtain ⟨value, hreceived, hrefused, hexc⟩ := (validated_error hurl h).resolve_left hnone
        exact ⟨_, _, _, value,
          List.mem_cons_of_mem _ (List.mem_cons_of_mem _ (List.mem_cons_of_mem _
            List.mem_cons_self)), hreceived, hrefused, hexc⟩
    obtain ⟨path, model, accepts, value, hendpoint, hreceived, hrefused, rfl⟩ := hmisread
    exact hfault ▸ .misread hendpoint hreceived hrefused
  · exact absurd (by simp [Sovereign.ZaryaProvider.incompatible, Sovereign.zaryaClientErrors])
      (hraised hfault)
  · obtain ⟨value, hreceived, hread⟩ := validated_ok hurl hresponse
    obtain ⟨entry, hmem, hentry⟩ := Checks.exists_of_mapM_eq_error hcaps
    unfold Sovereign.makeCapability at hentry
    split at hentry
    · cases hentry
    · next hne =>
        obtain rfl := Except.error.inj hentry
        exact .capability hreceived hread hmem rfl hne

/-- An endpoint that answers everything with an empty body. -/
theorem connect_contained_empty :
    Escapes .ascii localClient plainTexts (fun _ => none) (fun _ => .answered [])
    (.raised ⟨"ValidationError", "1 validation error for ProtocolResponse"⟩) :=
  connect_contained .ascii (fun _ _ => by simp) {} rfl

end Eip1

end Shyam
