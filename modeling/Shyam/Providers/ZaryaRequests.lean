import Shyam.Providers.Eip1
import Shyam.Providers.Sovereign
import Shyam.Providers.Zarya

/-!
# The requests of the Zarya client

The methods of the client: a path, what is sent, and the model that the answer is validated against.
-/

namespace Shyam

open Python

/-- `VerificationOutcome(s)`. -/
def VerificationOutcome.ofValue? (s : String) : Option VerificationOutcome :=
  [verifiedSuccess, verifiedFailure, unknown].find? fun outcome => outcome.value = s

theorem VerificationOutcome.ofValue?_value (outcome : VerificationOutcome) :
    ofValue? outcome.value = some outcome := by
  cases outcome <;> rfl

def EcosystemStatus.value : EcosystemStatus → String
  | ready => "READY"
  | busy => "BUSY"
  | starting => "STARTING"
  | stopping => "STOPPING"
  | unavailable => "UNAVAILABLE"

def EcosystemStatus.ofValue? (s : String) : Option EcosystemStatus :=
  [ready, busy, starting, stopping, unavailable].find? fun status => status.value = s

namespace Eip1

open JsonValue (field asStr asDict asList asBool asOptional)

/-! ### Responses -/

structure AuthInfoResponse where
  method : String
  headerName : String
  description : String

structure WorkExecuteResponse where
  tool : String
  outcome : VerificationOutcome
  verified : Bool
  result : List (String × JsonValue)
  summary : String

structure WorkStatusDetail where
  status : String
  totalSteps : ℤ
  completedSteps : ℤ

structure WorkStatusResponse where
  operationId : String
  ecosystemStatus : String
  lifecycleStatus : String
  detail : Option WorkStatusDetail

def readAuthInfo (data : JsonValue) : Option AuthInfoResponse := do
  let fields ← data.asDict
  let method ← field fields "method" asStr none
  let headerName ← field fields "header_name" asStr none
  let description ← field fields "description" asStr (some "")
  return ⟨method, headerName, description⟩

def readProtocol (data : JsonValue) : Option Sovereign.ProtocolResponse := do
  let fields ← data.asDict
  let current ← field fields "current" asStr none
  let supported ← field fields "supported" (fun v => v.asList.bind (·.mapM asStr)) none
  return ⟨current, supported⟩

def readDevice (data : JsonValue) : Option DeviceInfo := do
  let fields ← data.asDict
  let deviceId ← field fields "device_id" asStr none
  let displayName ← field fields "display_name" asStr none
  let deviceType ← field fields "device_type" asStr none
  let platform ← field fields "platform" asStr none
  return ⟨deviceId, displayName, deviceType, platform⟩

def readIdentity (data : JsonValue) : Option Sovereign.IdentityResponse := do
  let fields ← data.asDict
  let instanceId ← field fields "instance_id" asStr none
  let product ← field fields "product" asStr none
  let version ← field fields "version" asStr none
  let protocol ← field fields "protocol" asStr none
  let platform ← field fields "platform" asStr none
  let architecture ← field fields "architecture" asStr none
  let device ← field fields "device" (asOptional readDevice) (some none)
  return ⟨instanceId, product, version, protocol, platform, architecture, device⟩

/-- The operations and the schemas of an entry are checked as well. -/
def readCapabilityEntry (data : JsonValue) : Option CapabilityEntry := do
  let fields ← data.asDict
  let id ← field fields "id" asStr none
  let version ← field fields "version" asStr none
  let description ← field fields "description" asStr (some "")
  let _ ← field fields "operations" (fun v => v.asList.bind (·.mapM asStr)) (some [])
  let _ ← field fields "input_schema" (asOptional asDict) (some none)
  let _ ← field fields "output_schema" (asOptional asDict) (some none)
  return ⟨id, version, description⟩

def readCapabilities (data : JsonValue) : Option Sovereign.CapabilitiesResponse := do
  let fields ← data.asDict
  let protocol ← field fields "protocol" asStr none
  let capabilities ← field fields "capabilities"
    (fun v => v.asList.bind (·.mapM readCapabilityEntry)) (some [])
  let allowedTools ← field fields "allowed_tools" (fun v => v.asList.bind (·.mapM asStr)) (some [])
  return ⟨protocol, capabilities, allowedTools⟩

section

variable (asInt : JsonValue → Option ℤ)

/-- `asInt` is how pydantic takes an integer. -/
def readStatus (data : JsonValue) : Option EcosystemStatus := do
  let fields ← data.asDict
  let status ← field fields "status" (fun v => v.asStr.bind EcosystemStatus.ofValue?) none
  let _ ← field fields "active_operations" asInt (some 0)
  return status

def readWorkStatusDetail (data : JsonValue) : Option WorkStatusDetail := do
  let fields ← data.asDict
  let status ← field fields "status" asStr (some "")
  let totalSteps ← field fields "total_steps" asInt (some 0)
  let completedSteps ← field fields "completed_steps" asInt (some 0)
  return ⟨status, totalSteps, completedSteps⟩

def readWorkStatus (data : JsonValue) : Option WorkStatusResponse := do
  let fields ← data.asDict
  let operationId ← field fields "operation_id" asStr none
  let ecosystemStatus ← field fields "ecosystem_status" asStr (some "")
  let lifecycleStatus ← field fields "lifecycle_status" asStr (some "")
  let detail ← field fields "detail" (asOptional (readWorkStatusDetail asInt)) (some none)
  return ⟨operationId, ecosystemStatus, lifecycleStatus, detail⟩

end

def asOutcome (v : JsonValue) : Option VerificationOutcome :=
  v.asStr.bind VerificationOutcome.ofValue?

def readWorkExecute (data : JsonValue) : Option WorkExecuteResponse := do
  let fields ← data.asDict
  let tool ← field fields "tool" asStr none
  let outcome ← field fields "outcome" asOutcome none
  let verified ← field fields "verified" asBool none
  let result ← field fields "result" asDict (some [])
  let summary ← field fields "summary" asStr (some "")
  return ⟨tool, outcome, verified, result, summary⟩

/-- The result is checked, and nothing reads it. -/
def readContinuation (data : JsonValue) : Option ContinuationResponse := do
  let fields ← data.asDict
  let operationId ← field fields "operation_id" asStr (some "")
  let outcome ← field fields "outcome" asOutcome (some .unknown)
  let reconstructionCompleted ← field fields "reconstruction_completed" asBool (some false)
  let executionCompleted ← field fields "execution_completed" asBool (some false)
  let _ ← field fields "result" asDict (some [])
  let summary ← field fields "summary" asStr (some "")
  return ⟨operationId, outcome, reconstructionCompleted, executionCompleted, summary⟩

/-! ### What is sent -/

mutual

/-- What `model_dump` makes of a value of any type: a model in it becomes a dictionary. -/
def dumped : PyValue → PyValue
  | .model fields | .dict fields => .dict (dumpedFields fields)
  | .list items => .list (dumpedItems items)
  | .tuple items => .tuple (dumpedItems items)
  | v => v

def dumpedItems : List PyValue → List PyValue
  | [] => []
  | v :: vs => dumped v :: dumpedItems vs

def dumpedFields : List (String × PyValue) → List (String × PyValue)
  | [] => []
  | f :: fs => dumpedField f :: dumpedFields fs

def dumpedField : String × PyValue → String × PyValue
  | (k, v) => (k, dumped v)

end

/-! ### Methods -/

/-- `Model.model_validate(data)`. -/
def validated {α : Type} (texts : Texts) (model : String) (read : JsonValue → Option α)
    (answer : Except Raised JsonValue) : Except Raised α :=
  match answer with
  | .error raised => .error raised
  | .ok data =>
      match read data with
      | some value => .ok value
      | none => .error (.other ⟨"ValidationError", texts.validationError model data⟩)

namespace ZaryaClient

variable (client : ZaryaClient) (texts : Texts) (asInt : JsonValue → Option ℤ)
  (network : HttpRequest → HttpAnswer)

def getAuthInfo : Except Raised AuthInfoResponse :=
  validated texts "AuthInfoResponse" readAuthInfo
    (client.request texts network "GET" "/auth-info" none false)

def getIdentity : Except Raised Sovereign.IdentityResponse :=
  validated texts "IdentityResponse" readIdentity
    (client.request texts network "GET" "/identity" none true)

def getProtocol : Except Raised Sovereign.ProtocolResponse :=
  validated texts "ProtocolResponse" readProtocol
    (client.request texts network "GET" "/protocol" none true)

def getCapabilities : Except Raised Sovereign.CapabilitiesResponse :=
  validated texts "CapabilitiesResponse" readCapabilities
    (client.request texts network "GET" "/capabilities" none true)

def getStatus : Except Raised EcosystemStatus :=
  validated texts "StatusResponse" (readStatus asInt)
    (client.request texts network "GET" "/status" none true)

def workBody (tool : String) (args : Dict PyValue) : PyValue :=
  .dict [("tool", .str tool), ("args", dumped (.dict args.entries))]

def executeWork (tool : String) (args : Dict PyValue) : Except Raised WorkExecuteResponse := do
  let resp ← validated texts "WorkExecuteResponse" readWorkExecute
    (client.request texts network "POST" "/work/execute" (some (workBody tool args)) true)
  if resp.outcome = .verifiedFailure then
    .error (.zarya (.verification resp.tool resp.outcome.value resp.summary))
  else .ok resp

def getWorkStatus (operationId : String) : Except Raised WorkStatusResponse :=
  validated texts "WorkStatusResponse" (readWorkStatus asInt)
    (client.request texts network "GET" ("/work/status/" ++ operationId) none true)

def continuationBody (portableWork : Dict PyValue)
    (sourceDeviceId continuityId : String) : PyValue :=
  .dict
    [("portable_work", dumped (.dict portableWork.entries)),
      ("source_device_id", .str sourceDeviceId), ("continuity_id", .str continuityId)]

def continueWork (portableWork : Dict PyValue) (sourceDeviceId continuityId : String) :
    Except Raised ContinuationResponse :=
  validated texts "ContinuationResponse" readContinuation
    (client.request texts network "POST" "/work/continue"
      (some (continuationBody portableWork sourceDeviceId continuityId)) true)

/-- What the provider gets to see of the client during one `connect`. -/
def sovereign : Sovereign.ZaryaClient where
  getProtocol := (client.getProtocol texts network).mapError Raised.exc
  getIdentity := (client.getIdentity texts network).mapError Raised.exc
  getCapabilities := (client.getCapabilities texts network).mapError Raised.exc
  getStatus := (client.getStatus texts asInt network).mapError Raised.exc

/-- The client that `continue_work` of the provider goes through, its own or one for the URL of a
target, which takes the token over. -/
def forTarget (environ : Option String) : Shyam.ZaryaClient → ZaryaClient
  | .own baseUrl => { client with baseUrl }
  | .target targetUrl => .new targetUrl (some client.token) environ

/-- What the provider posts. -/
def post (environ : Option String) (target : Shyam.ZaryaClient) (portableWork : Dict PyValue)
    (sourceDeviceId continuityId : String) : Except Exc ContinuationResponse :=
  ((client.forTarget environ target).continueWork texts network portableWork sourceDeviceId
    continuityId).mapError Raised.exc

end ZaryaClient

end Eip1

end Shyam
