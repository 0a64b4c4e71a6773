import Shyam.Providers.FluxRequests
import Shyam.Workflow.Executors

/-!
# The Flux executor

How a step is executed on Flux: the capability selects an operation of the provider, its arguments
are taken from the input of the step, and the response is the output.
-/

namespace Shyam

open Python

open Eip1 (HttpRequest HttpAnswer Texts)
open FluxGateway

namespace FluxExecutor

/-! ### Outputs -/

def optionalStr (s : Option String) : PyValue := (s.map PyValue.str).getD .none

def optionalFloat (literal : Option String) : PyValue := (literal.map PyValue.float).getD .none

def dumpPath (path : FluxGateway.FluxPathInfo) : PyValue :=
  .dict
    [("path_id", .str path.pathId), ("transport", .str path.transport.value),
      ("remote_addr", .str path.remoteAddr), ("state", .str path.state.value),
      ("rtt_ms", optionalFloat path.rttMs), ("last_seen", optionalStr path.lastSeen)]

def dumpPeer (peer : FluxGateway.FluxPeerInfo) : PyValue :=
  .dict
    [("peer_id", .str peer.peerId), ("address", optionalStr peer.address),
      ("last_seen", optionalStr peer.lastSeen),
      ("last_seen_secs_ago", optionalFloat peer.lastSeenSecsAgo),
      ("paths", .list (peer.paths.map dumpPath)), ("connectivity", .str peer.connectivity)]

def dumpConnect (resp : FluxConnectResponse) : PyValue :=
  .dict
    [("peer_id", .str resp.peerId), ("success", .bool resp.success),
      ("connected_address", optionalStr resp.connectedAddress),
      ("message", optionalStr resp.message),
      ("connected", (resp.connected.map PyValue.bool).getD .none),
      ("active_path_count", .int resp.activePathCount)]

def dumpTransfer (resp : FluxTransferResponse) : PyValue :=
  .dict [("transfer_id", .str resp.transferId), ("status", .str resp.status.value)]

def dumpTransferStatus (resp : FluxTransferStatusResponse) : PyValue :=
  .dict
    [("transfer_id", .str resp.transferId), ("peer_id", .str resp.peerId),
      ("status", .str resp.status.value), ("bytes_transferred", .int resp.bytesTransferred),
      ("total_bytes", .int resp.totalBytes),
      ("files_transferred", .int resp.filesTransferred), ("total_files", .int resp.totalFiles),
      ("error_message", optionalStr resp.errorMessage)]

def dumpCancel (resp : FluxCancelResponse) : PyValue :=
  .dict [("transfer_id", .str resp.transferId), ("cancelled", .bool resp.cancelled)]

/-! ### Operations -/

/-- `input_data.get(key)`. -/
def lookup (inputData : Dict PyValue) (key : String) : PyValue := (inputData.get? key).getD .none

def missing (names : String) : Exc := ⟨"ValueError", "Missing " ++ names ++ " in input_data"⟩

/-- The clients and conversions that an executor goes by. `str` is how a value is written into a
path, and `requestError` the text of a request that does not validate. -/
structure Gateway where
  client : FluxClient
  texts : Texts
  lower : String → String
  asInt : JsonValue → Option ℤ
  asFloat : JsonValue → Option String
  str : PyValue → String
  requestError : String → List PyValue → String

variable (gateway : Gateway) (network : HttpRequest → HttpAnswer) (connected : Bool)

/-- An argument of a request has to be a text. -/
def invalid (model : String) (args : List PyValue) : Exc :=
  ⟨"ValidationError", gateway.requestError model args⟩

def discoverPeers : Except Exc (List FluxGateway.FluxPeerInfo) :=
  FluxClient.whileConnected connected
    (gateway.client.getPeers gateway.texts gateway.lower network gateway.asFloat)

def connectPeer (peerId : PyValue) : Except Exc FluxConnectResponse :=
  FluxClient.whileConnected connected
    (match peerId with
    | .str peerId =>
        gateway.client.connectPeer gateway.texts gateway.lower gateway.asInt network peerId
    | peerId => .error (invalid gateway "FluxConnectRequest" [peerId]))

def transfer (peerId artifactPath : PyValue) : Except Exc FluxTransferResponse :=
  FluxClient.whileConnected connected
    (match peerId, artifactPath with
    | .str peerId, .str artifactPath =>
        gateway.client.initiateTransfer gateway.texts gateway.lower network peerId artifactPath
    | peerId, artifactPath => .error (invalid gateway "FluxTransferRequest" [peerId, artifactPath]))

def pathPart : PyValue → String
  | .str s => s
  | v => gateway.str v

def getTransferStatus (transferId : PyValue) : Except Exc FluxTransferStatusResponse :=
  FluxClient.whileConnected connected
    (gateway.client.getTransferStatus gateway.texts gateway.lower gateway.asInt network
      (pathPart gateway transferId))

def cancelTransfer (transferId : PyValue) : Except Exc FluxCancelResponse :=
  FluxClient.whileConnected connected
    (gateway.client.cancelTransfer gateway.texts gateway.lower network
      (pathPart gateway transferId))

/-- The branches of `execute`. What is asked of a transfer beyond the peer and
the path is not sent. -/
def dispatch (cap : String) (inputData : Dict PyValue) : Except Exc PyValue :=
  let peerId := lookup inputData "peer_id"
  let artifactPath := lookup inputData "artifact_path"
  let transferId := lookup inputData "transfer_id"
  if cap = "flux.peer.discover" then
    (discoverPeers gateway network connected).map fun peers => .list (peers.map dumpPeer)
  else if cap = "flux.peer.connect" then
    if peerId.truthy then (connectPeer gateway network connected peerId).map dumpConnect
    else .error (missing "'peer_id'")
  else if cap = "flux.transfer.send" then
    if peerId.truthy && artifactPath.truthy then
      (transfer gateway network connected peerId artifactPath).map dumpTransfer
    else .error (missing "'peer_id' or 'artifact_path'")
  else if cap = "flux.transfer.status" then
    if transferId.truthy then
      (getTransferStatus gateway network connected transferId).map dumpTransferStatus
    else .error (missing "'transfer_id'")
  else if cap = "flux.transfer.cancel" then
    if transferId.truthy then (cancelTransfer gateway network connected transferId).map dumpCancel
    else .error (missing "'transfer_id'")
  else .error (stepExecutionError cap ("Unsupported Flux capability: '" ++ cap ++ "'"))

/-- Whatever is raised is wrapped, once. -/
def execute (cap : String) (inputData : Dict PyValue) : Except Exc PyValue :=
  match dispatch gateway network connected cap inputData with
  | .ok output => .ok output
  | .error exc =>
      if exc.cls = "StepExecutionError" then .error exc
      else .error (stepExecutionError cap exc.text)

end FluxExecutor

end Shyam
