import Shyam.Lib.JsonFields
import Shyam.Lib.JsonPrinter
import Shyam.Lib.Substring

/-!
# The client of a Zarya instance

`ZaryaClient._request`: one exchange over HTTP, and what becomes of every way in which it can go
wrong. What the network answers is a parameter.
-/

namespace Shyam

open Python

namespace Eip1

/-! ### Errors -/

inductive EcosystemErrorCode where
  | invalidRequest
  | unsupportedProtocol
  | capabilityNotAdvertised
  | operationNotSupported
  | unauthorized
  | busy
  | unavailable
  | invalidState
  | executionFailed
  | verificationFailed
  | toolNotAllowed
  | unknown
deriving DecidableEq, Repr

namespace EcosystemErrorCode

def value : EcosystemErrorCode → String
  | invalidRequest => "INVALID_REQUEST"
  | unsupportedProtocol => "UNSUPPORTED_PROTOCOL"
  | capabilityNotAdvertised => "CAPABILITY_NOT_ADVERTISED"
  | operationNotSupported => "OPERATION_NOT_SUPPORTED"
  | unauthorized => "UNAUTHORIZED"
  | busy => "BUSY"
  | unavailable => "UNAVAILABLE"
  | invalidState => "INVALID_STATE"
  | executionFailed => "EXECUTION_FAILED"
  | verificationFailed => "VERIFICATION_FAILED"
  | toolNotAllowed => "TOOL_NOT_ALLOWED"
  | unknown => "UNKNOWN"

def all : List EcosystemErrorCode :=
  [invalidRequest, unsupportedProtocol, capabilityNotAdvertised, operationNotSupported,
    unauthorized, busy, unavailable, invalidState, executionFailed, verificationFailed,
    toolNotAllowed, unknown]

def ofValue? (s : String) : Option EcosystemErrorCode := all.find? fun code => code.value = s

theorem ofValue?_value (code : EcosystemErrorCode) : ofValue? code.value = some code := by
  cases code <;> rfl

end EcosystemErrorCode

/-- The classes of the errors, with the attributes that each adds. -/
inductive ZaryaErrorClass where
  | client
  | connection
  | authentication
  | toolNotAllowed (tool : String) (allowedTools : JsonValue)
  | verification (tool outcome summary : String)
  | busy
  | unavailable

def ZaryaErrorClass.name : ZaryaErrorClass → String
  | client => "ZaryaClientError"
  | connection => "ZaryaConnectionError"
  | authentication => "ZaryaAuthenticationError"
  | toolNotAllowed _ _ => "ZaryaToolNotAllowedError"
  | verification _ _ _ => "ZaryaVerificationError"
  | busy => "ZaryaBusyError"
  | unavailable => "ZaryaUnavailableError"

structure ZaryaClientError where
  cls : ZaryaErrorClass := .client
  message : String
  code : Option EcosystemErrorCode := none
  httpStatus : Option ℤ := none
  detail : JsonValue := .obj []

namespace ZaryaClientError

def authentication (message : String) : ZaryaClientError where
  cls := .authentication
  message := message
  code := some .unauthorized
  httpStatus := some 401

/-- `allowed_tools or []`. -/
def allowedOrNone (allowedTools : JsonValue) : JsonValue :=
  if (PyValue.ofJson allowedTools).truthy then allowedTools else .arr []

def toolNotAllowed (tool : String) (allowedTools : JsonValue) : ZaryaClientError where
  cls := .toolNotAllowed tool (allowedOrNone allowedTools)
  message := "Tool '" ++ tool ++ "' is not permitted through the ecosystem boundary."
  code := some .toolNotAllowed
  httpStatus := some 403
  detail := .obj [("allowed_tools", allowedOrNone allowedTools)]

def verification (tool outcome summary : String) : ZaryaClientError where
  cls := .verification tool outcome summary
  message := "Verification failed for '" ++ tool ++ "': " ++ outcome ++ ". " ++ summary
  code := some .verificationFailed

def busy (message : String) : ZaryaClientError where
  cls := .busy
  message := message
  code := some .busy
  httpStatus := some 503

def unavailable (message : String) : ZaryaClientError where
  cls := .unavailable
  message := message
  code := some .unavailable
  httpStatus := some 503

end ZaryaClientError

/-- What a call raises: an error of the client, or one that it does not turn into its own. -/
inductive Raised where
  | zarya (error : ZaryaClientError)
  | other (exc : Exc)

def Raised.exc : Raised → Exc
  | zarya error => ⟨error.cls.name, error.message⟩
  | other exc => exc

/-! ### One exchange -/

structure HttpRequest where
  method : String
  url : String
  headers : List (String × String)
  data : Option Bytes

/-- What `Request` and `urlopen` come to. An HTTP status outside 200 to 299 raises, and then reading
the body can raise as well. -/
inductive HttpAnswer where
  | answered (body : Bytes)
  | httpError (code : ℤ) (reason : String) (body : Except Exc Bytes)
  | urlError (reason : String)
  | raised (exc : Exc)
  | notAUrl (exc : Exc)

/-- The texts that the standard library and pydantic contribute. -/
structure Texts where
  lib : TextLibrary
  repr : JsonValue → String
  validationError : String → JsonValue → String

structure ZaryaClient where
  baseUrl : String
  token : String

/-- `token or os.environ.get("ZARYA_ECOSYSTEM_TOKEN", "")`. -/
def ZaryaClient.new (baseUrl : String) (token environ : Option String) : ZaryaClient where
  baseUrl := rstrip '/' baseUrl
  token :=
    match token with
    | some token => if token ≠ "" then token else environ.getD ""
    | none => environ.getD ""

structure EcosystemErrorDetail where
  code : EcosystemErrorCode
  message : String
  detail : List (String × JsonValue)

/-- `EcosystemErrorEnvelope.model_validate(detail).error`. -/
def readEnvelope (detail : JsonValue) : Option EcosystemErrorDetail := do
  let envelope ← detail.asDict
  let error ← JsonValue.field envelope "error" JsonValue.asDict none
  let code ← JsonValue.field error "code" (fun v => v.asStr.bind EcosystemErrorCode.ofValue?) none
  let message ← JsonValue.field error "message" JsonValue.asStr none
  let detail ← JsonValue.field error "detail" JsonValue.asDict (some [])
  return ⟨code, message, detail⟩

/-- `"error" in detail`, which raises for anything but a container. -/
def hasError : JsonValue → Option Bool
  | .obj fields => some (fields.lookup "error").isSome
  | .str s => some (contains s "error")
  | .arr items => some (items.any fun | .str s => s = "error" | _ => false)
  | .null | .bool _ | .int _ | .float _ => none

def apostrophe : Char := Char.ofNat 39

/-- The branches on the code. -/
def errorOf (status : ℤ) (err : EcosystemErrorDetail) : ZaryaClientError :=
  if err.code = .unauthorized then .authentication err.message
  else if err.code = .toolNotAllowed then
    .toolNotAllowed ((secondPart apostrophe err.message).getD "unknown")
      ((err.detail.lookup "allowed_tools").getD (.arr []))
  else if err.code = .busy then .busy err.message
  else if err.code = .unavailable then .unavailable err.message
  else
    { message := err.message, code := some err.code, httpStatus := some status,
      detail := .obj err.detail }

/-- `_handle_structured_error`; nothing where it raises an exception of another kind. -/
def handleStructuredError (texts : Texts) (status : ℤ) (errorData : JsonValue) :
    Option ZaryaClientError := do
  let fields ← errorData.asDict
  let detail := (fields.lookup "detail").getD (.obj [])
  if ← hasError detail then
    match readEnvelope detail with
    | some err => return errorOf status err
    | none =>
        return {
          message := "Failed to validate EIP-1 error model: "
            ++ texts.validationError "EcosystemErrorEnvelope" detail
          httpStatus := some status
          detail := errorData }
  else
    return {
      message := "HTTP " ++ toString status ++ ": " ++ texts.repr errorData
      httpStatus := some status }

/-- `_handle_http_status_fallback`, and the raise after it. -/
def handleHttpStatusFallback (status : ℤ) (reason : String) : ZaryaClientError :=
  if status = 401 then .authentication "Invalid or missing ecosystem token"
  else if status = 403 then
    { message := "Access forbidden.", code := some .toolNotAllowed, httpStatus := some 403 }
  else if status = 404 then
    { message := "Not found.", code := some .operationNotSupported, httpStatus := some 404 }
  else if status = 503 then .unavailable "Service unavailable fallback."
  else { message := "HTTP error " ++ toString status ++ ": " ++ reason, httpStatus := some status }

/-- The handler of `HTTPError`. -/
def httpError (texts : Texts) (status : ℤ) (reason : String) (body : Except Exc Bytes) :
    ZaryaClientError :=
  match body.bind texts.lib.loads with
  | .ok errorData =>
      (handleStructuredError texts status errorData).getD (handleHttpStatusFallback status reason)
  | .error _ => handleHttpStatusFallback status reason

namespace ZaryaClient

variable (client : ZaryaClient) (texts : Texts)

/-- What is sent. The token is asked for first, and the data are dumped before anything is
caught. -/
def prepare (method path : String) (data : Option PyValue) (authRequired : Bool) :
    Except Raised HttpRequest :=
  if authRequired = true ∧ client.token = "" then
    .error (.zarya (.authentication "No ecosystem token configured."))
  else
    let headers := [("Content-Type", "application/json"), ("Accept", "application/json")]
    let headers :=
      if authRequired then headers ++ [("X-Ecosystem-Token", client.token)] else headers
    match data with
    | none => .ok ⟨method, client.baseUrl ++ path, headers, none⟩
    | some data =>
        match data.toJson with
        | .ok json =>
            .ok ⟨method, client.baseUrl ++ path, headers, some (encodeUtf8 (json.dumps .default))⟩
        | .error exc => .error (.other exc)

def transportFailure (exc : Exc) : ZaryaClientError :=
  { message := "Unexpected transport failure: " ++ exc.text }

def receive : HttpAnswer → Except Raised JsonValue
  | .answered [] => .ok (.obj [])
  | .answered body =>
      match texts.lib.loads body with
      | .ok value => .ok value
      | .error exc => .error (.zarya (transportFailure exc))
  | .httpError status reason body => .error (.zarya (httpError texts status reason body))
  | .urlError reason =>
      .error (.zarya {
        cls := .connection
        message :=
          "Cannot reach Zarya at " ++ client.baseUrl ++ ". Is Zarya running? Details: " ++ reason })
  | .raised exc => .error (.zarya (transportFailure exc))
  | .notAUrl exc => .error (.other exc)

/-- `_request`. -/
def request (network : HttpRequest → HttpAnswer) (method path : String) (data : Option PyValue)
    (authRequired : Bool) : Except Raised JsonValue := do
  let request ← client.prepare method path data authRequired
  client.receive texts (network request)

end ZaryaClient

end Eip1

end Shyam
