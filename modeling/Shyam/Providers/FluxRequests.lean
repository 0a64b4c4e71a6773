import Shyam.Providers.Eip1
import Shyam.Providers.Models

/-!
# The client of the Flux gateway

One exchange over HTTP, the classes of errors that its statuses and codes come to, and the requests
that move artifacts.
-/

namespace Shyam

open Python

/-- `FluxTransferStatus(s)`. -/
def FluxTransferStatus.ofValue? (s : String) : Option FluxTransferStatus :=
  [created, running, completed, failed, cancelled].find? fun status => status.value = s

theorem FluxTransferStatus.ofValue?_value (status : FluxTransferStatus) :
    ofValue? status.value = some status := by
  cases status <;> rfl

namespace FluxGateway

open Eip1 (HttpRequest HttpAnswer Texts)
open JsonValue (field asStr asDict asList asBool asOptional)

/-! ### Errors -/

inductive FluxErrorClass where
  | client
  | connection
  | protocol
  | peerNotFound
  | transfer
  | unavailable
deriving DecidableEq, Repr

def FluxErrorClass.name : FluxErrorClass → String
  | client => "FluxClientError"
  | connection => "FluxConnectionError"
  | protocol => "FluxProtocolError"
  | peerNotFound => "FluxPeerNotFoundError"
  | transfer => "FluxTransferError"
  | unavailable => "FluxUnavailableError"

structure FluxClientError where
  cls : FluxErrorClass := .client
  message : String
  code : Option String := none
  httpStatus : Option ℤ := none
  detail : List (String × JsonValue) := []

def FluxClientError.exc (error : FluxClientError) : Exc := ⟨error.cls.name, error.message⟩

/-- `str(v)` of a value that was read from JSON. -/
def pyStr (texts : Texts) : JsonValue → String
  | .str s => s
  | v => texts.repr v

/-- What is read off the body of an error. -/
structure ErrorParts where
  code : String := "unknown"
  message : String
  detail : JsonValue := .obj []

section

variable (texts : Texts) (lower : String → String)

/-- `inner.get("detail") or {}`. -/
def detailOrEmpty (inner : List (String × JsonValue)) : JsonValue :=
  let detail := (inner.lookup "detail").getD .null
  if (PyValue.ofJson detail).truthy then detail else .obj []

/-- The `try` block: the error may be nested or flat, and what is no dictionary has no error. -/
def readError (status : ℤ) (reason : String) (errJson : JsonValue) : Option ErrorParts := do
  let inner :=
    match errJson with
    | .obj fields => (fields.lookup "error").getD (.obj fields)
    | _ => .obj []
  let inner ← inner.asDict
  return {
    code := lower (pyStr texts ((inner.lookup "code").getD (.str "unknown")))
    message := ((inner.lookup "message").map (pyStr texts)).getD
      ("HTTP Error " ++ toString status ++ ": " ++ reason)
    detail := detailOrEmpty inner }

def errorParts (status : ℤ) (reason : String) (body : Except Exc Bytes) : ErrorParts :=
  match body.bind texts.lib.loads with
  | .ok errJson =>
      (readError texts lower status reason errJson).getD
        { message := "HTTP " ++ toString status ++ ": " ++ reason }
  | .error _ => { message := "HTTP " ++ toString status ++ ": " ++ reason }

def peerId (detail : JsonValue) : String :=
  match detail with
  | .obj fields => pyStr texts ((fields.lookup "peer_id").getD (.str "unknown"))
  | _ => "unknown"

/-- `_handle_http_error`. -/
def handleHttpError (status : ℤ) (reason : String) (body : Except Exc Bytes) : FluxClientError :=
  let parts := errorParts texts lower status reason body
  if status = 404 ∧ contains parts.code "peer" = true then
    { cls := .peerNotFound
      message := "Peer not found: " ++ peerId texts parts.detail
      code := some "peer_not_found"
      httpStatus := some 404 }
  else if status = 409 ∧ contains parts.code "protocol" = true then
    { cls := .protocol, message := parts.message, code := some "protocol_mismatch" }
  else if status = 503 ∨ status = 500 ∧ contains parts.code "not_ready" = true then
    { cls := .unavailable, message := parts.message, code := some "unavailable",
      httpStatus := some 503 }
  else if contains parts.code "transfer" = true then
    { cls := .transfer, message := parts.message, code := some "transfer_failed" }
  else
    { message := parts.message
      code := some parts.code
      httpStatus := some status
      detail := parts.detail.asDict.getD [] }

end

/-! ### One exchange -/

structure FluxClient where
  baseUrl : String

def FluxClient.new (baseUrl : String) : FluxClient := ⟨rstrip '/' baseUrl⟩

namespace FluxClient

variable (client : FluxClient) (texts : Texts) (lower : String → String)

def prepare (method path : String) (data : Option PyValue) : Except Exc HttpRequest :=
  let headers := [("Content-Type", "application/json"), ("Accept", "application/json")]
  match data with
  | none => .ok ⟨method, client.baseUrl ++ path, headers, none⟩
  | some data => do
      let json ← data.toJson
      return ⟨method, client.baseUrl ++ path, headers, some (encodeUtf8 (json.dumps .default))⟩

def transportFailure (exc : Exc) : FluxClientError :=
  { message := "Unexpected transport failure: " ++ exc.text }

def receive : HttpAnswer → Except Exc JsonValue
  | .answered [] => .ok (.obj [])
  | .answered body => (texts.lib.loads body).mapError fun exc => (transportFailure exc).exc
  | .httpError status reason body => .error (handleHttpError texts lower status reason body).exc
  | .urlError reason =>
      .error (FluxClientError.exc {
        cls := .connection
        message := "Cannot reach Flux Gateway at " ++ client.baseUrl
          ++ ". Is Flux running? Details: " ++ reason
        code := some "connection_failed" })
  | .raised exc => .error (transportFailure exc).exc
  | .notAUrl exc => .error exc

/-- `_request`. -/
def request (network : HttpRequest → HttpAnswer) (method path : String) (data : Option PyValue) :
    Except Exc JsonValue := do
  let request ← client.prepare method path data
  client.receive texts lower (network request)

end FluxClient

/-! ### Peers -/

inductive FluxPathState where
  | available
  | degraded
  | unavailable
  | stale
deriving DecidableEq, Repr

def FluxPathState.value : FluxPathState → String
  | available => "available"
  | degraded => "degraded"
  | unavailable => "unavailable"
  | stale => "stale"

/-- `FluxPathState(s)`. -/
def FluxPathState.ofValue? (s : String) : Option FluxPathState :=
  [available, degraded, unavailable, stale].find? fun state => state.value = s

inductive FluxTransportKind where
  | tcpLan
  | tcpWifi
  | tcpDirect
  | relay
  | bluetooth
deriving DecidableEq, Repr

def FluxTransportKind.value : FluxTransportKind → String
  | tcpLan => "tcp_lan"
  | tcpWifi => "tcp_wifi"
  | tcpDirect => "tcp_direct"
  | relay => "relay"
  | bluetooth => "bluetooth"

/-- `FluxTransportKind(s)`. -/
def FluxTransportKind.ofValue? (s : String) : Option FluxTransportKind :=
  [tcpLan, tcpWifi, tcpDirect, relay, bluetooth].find? fun kind => kind.value = s

/-- A float is carried by its `repr`. -/
structure FluxPathInfo where
  pathId : String
  transport : FluxTransportKind
  remoteAddr : String
  state : FluxPathState
  rttMs : Option String
  lastSeen : Option String

structure FluxPeerInfo where
  peerId : String
  address : Option String
  lastSeen : Option String
  lastSeenSecsAgo : Option String
  paths : List FluxPathInfo
  connectivity : String

section

variable (asFloat : JsonValue → Option String)

/-- `asFloat` is how pydantic takes a float. -/
def readPath (data : JsonValue) : Option FluxPathInfo := do
  let fields ← data.asDict
  let pathId ← field fields "path_id" asStr none
  let transport ← field fields "transport" (fun v => v.asStr.bind FluxTransportKind.ofValue?) none
  let remoteAddr ← field fields "remote_addr" asStr none
  let state ← field fields "state" (fun v => v.asStr.bind FluxPathState.ofValue?) none
  let rttMs ← field fields "rtt_ms" (asOptional asFloat) (some none)
  let lastSeen ← field fields "last_seen" (asOptional asStr) (some none)
  return ⟨pathId, transport, remoteAddr, state, rttMs, lastSeen⟩

def readPeer (data : JsonValue) : Option FluxPeerInfo := do
  let fields ← data.asDict
  let peerId ← field fields "peer_id" asStr none
  let address ← field fields "address" (asOptional asStr) (some none)
  let lastSeen ← field fields "last_seen" (asOptional asStr) (some none)
  let lastSeenSecsAgo ← field fields "last_seen_secs_ago" (asOptional asFloat) (some none)
  let paths ← field fields "paths" (fun v => v.asList.bind (·.mapM (readPath asFloat))) (some [])
  let connectivity ← field fields "connectivity" asStr (some "unknown")
  return ⟨peerId, address, lastSeen, lastSeenSecsAgo, paths, connectivity⟩

/-- The peers of a `FluxPeersResponse`. -/
def readPeers (data : JsonValue) : Option (List FluxPeerInfo) := do
  let fields ← data.asDict
  field fields "peers" (fun v => v.asList.bind (·.mapM (readPeer asFloat))) (some [])

end

/-! ### Moving artifacts -/

structure FluxConnectResponse where
  peerId : String
  success : Bool
  connectedAddress : Option String
  message : Option String
  connected : Option Bool
  activePathCount : ℤ

structure FluxTransferStatusResponse where
  transferId : String
  peerId : String
  status : FluxTransferStatus
  bytesTransferred : ℤ
  totalBytes : ℤ
  filesTransferred : ℤ
  totalFiles : ℤ
  errorMessage : Option String

structure FluxCancelResponse where
  transferId : String
  cancelled : Bool

def asStatus (v : JsonValue) : Option FluxTransferStatus := v.asStr.bind FluxTransferStatus.ofValue?

def readTransfer (data : JsonValue) : Option FluxTransferResponse := do
  let fields ← data.asDict
  let transferId ← field fields "transfer_id" asStr none
  let status ← field fields "status" asStatus none
  return ⟨transferId, status⟩

def readCancel (data : JsonValue) : Option FluxCancelResponse := do
  let fields ← data.asDict
  let transferId ← field fields "transfer_id" asStr none
  let cancelled ← field fields "cancelled" asBool none
  return ⟨transferId, cancelled⟩

section

variable (asInt : JsonValue → Option ℤ)

/-- `asInt` is how pydantic takes an integer. -/
def readConnect (data : JsonValue) : Option FluxConnectResponse := do
  let fields ← data.asDict
  let peerId ← field fields "peer_id" asStr none
  let success ← field fields "success" asBool (some true)
  let connectedAddress ← field fields "connected_address" (asOptional asStr) (some none)
  let message ← field fields "message" (asOptional asStr) (some none)
  let connected ← field fields "connected" (asOptional asBool) (some none)
  let activePathCount ← field fields "active_path_count" asInt (some 0)
  return ⟨peerId, success, connectedAddress, message, connected, activePathCount⟩

def readTransferStatus (data : JsonValue) : Option FluxTransferStatusResponse := do
  let fields ← data.asDict
  let transferId ← field fields "transfer_id" asStr none
  let peerId ← field fields "peer_id" asStr none
  let status ← field fields "status" asStatus none
  let bytesTransferred ← field fields "bytes_transferred" asInt (some 0)
  let totalBytes ← field fields "total_bytes" asInt (some 0)
  let filesTransferred ← field fields "files_transferred" asInt (some 0)
  let totalFiles ← field fields "total_files" asInt (some 0)
  let errorMessage ← field fields "error_message" (asOptional asStr) (some none)
  return ⟨transferId, peerId, status, bytesTransferred, totalBytes, filesTransferred,
    totalFiles, errorMessage⟩

end

/-- `Model.model_validate(data)`. -/
def validated {α : Type} (texts : Texts) (model : String) (read : JsonValue → Option α)
    (answer : Except Exc JsonValue) : Except Exc α := do
  let data ← answer
  match read data with
  | some value => .ok value
  | none => .error ⟨"ValidationError", texts.validationError model data⟩

namespace FluxClient

variable (client : FluxClient) (texts : Texts) (lower : String → String)
  (asInt : JsonValue → Option ℤ) (network : HttpRequest → HttpAnswer)

def getPeers (asFloat : JsonValue → Option String) : Except Exc (List FluxPeerInfo) :=
  validated texts "FluxPeersResponse" (readPeers asFloat)
    (client.request texts lower network "GET" "/peers" none)

def connectPeer (peerId : String) : Except Exc FluxConnectResponse :=
  validated texts "FluxConnectResponse" (readConnect asInt)
    (client.request texts lower network "POST" "/connect" (some (.dict [("peer_id", .str peerId)])))

/-- `FluxTransferRequest(peer_id=peer_id, file_paths=[artifact_path]).model_dump()`. -/
def transferBody (peerId artifactPath : String) : PyValue :=
  .dict [("peer_id", .str peerId), ("file_paths", .list [.str artifactPath])]

/-- The name of the artifact and whether it is a directory are not sent. -/
def initiateTransfer (peerId artifactPath : String) : Except Exc FluxTransferResponse :=
  validated texts "FluxTransferResponse" readTransfer
    (client.request texts lower network "POST" "/transfer"
      (some (transferBody peerId artifactPath)))

def getTransferStatus (transferId : String) : Except Exc FluxTransferStatusResponse :=
  validated texts "FluxTransferStatusResponse" (readTransferStatus asInt)
    (client.request texts lower network "GET" ("/transfer/" ++ transferId) none)

def cancelTransfer (transferId : String) : Except Exc FluxCancelResponse :=
  validated texts "FluxCancelResponse" readCancel
    (client.request texts lower network "POST" ("/transfer/" ++ transferId ++ "/cancel") none)

def notConnected : Exc := ⟨"FluxConnectionError", "FluxProvider is not connected."⟩

/-- An operation of the provider, which asks the gateway only while it is connected. -/
def whileConnected {α : Type} (isConnected : Bool) (operation : Except Exc α) : Except Exc α :=
  if isConnected then operation else .error notConnected

def transfer (isConnected : Bool) (peerId artifactPath : String) :
    Except Exc FluxTransferResponse :=
  whileConnected isConnected (client.initiateTransfer texts lower network peerId artifactPath)

end FluxClient

end FluxGateway

end Shyam
