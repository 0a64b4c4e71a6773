import Shyam.Core.Validation
import Shyam.Lib.Characters
import Shyam.Lib.Stages
import Shyam.Providers.Descriptors

/-!
# The sovereign providers

Zarya and Flux as the node sees them: what it has cached of their answers, and whether it takes them
for connected. A gateway may answer anything or raise anything. The caches are written one by one,
and the models that the node makes of them are checked only when they are built.
-/

namespace Shyam

open Python Fallible

/-! ### Validated models -/

variable (db : CharacterDatabase)

namespace Capability

def validateCapabilityId (v : String) : Except String String :=
  validateDotted db ("Capability ID must be namespaced (e.g. 'file.read'), got: '" ++ v ++ "'")
    ("Capability ID parts must be valid identifiers, got: '" ++ v ++ "'") v

/-- The checks of the model. -/
def errors (cap : Capability) : ValidationErrors :=
  failures "capability_id" (validateCapabilityId db cap.capabilityId)
    ++ failures "version" (validateVersion db cap.version)

end Capability

namespace Provider

def validateProviderId (v : String) : Except String String :=
  validateDotted db ("Provider ID must be namespaced (e.g. 'local.filesystem'), got: '" ++ v ++ "'")
    ("Provider ID parts must be valid identifiers, got: '" ++ v ++ "'") v

def errors (provider : Provider) : ValidationErrors :=
  failures "provider_id" (validateProviderId db provider.providerId)
    ++ failures "version" (validateVersion db provider.version)

end Provider

namespace Sovereign

/-- What a client raises, or the refusal of a model. -/
inductive Fault where
  | raised (exc : Exc)
  | invalid (model : String) (errors : ValidationErrors)

/-- `isinstance(exc, classes)`, by the names of the classes. -/
def Fault.isOf (classes : List String) : Fault → Bool
  | raised exc => classes.contains exc.cls
  | invalid _ _ => false

/-- `Capability(...)`. -/
def makeCapability (cap : Capability) : Except Fault Capability :=
  match cap.errors db with
  | [] => .ok cap
  | errors => .error (.invalid "Capability" errors)

/-- `Provider(...)`. -/
def makeProvider (provider : Provider) : Except Fault Provider :=
  match provider.errors db with
  | [] => .ok provider
  | errors => .error (.invalid "Provider" errors)

/-- The descriptor of a provider that is not connected. -/
def disconnected (providerId name description : String) : Provider where
  providerId := providerId
  name := name
  version := "0.0.0"
  description := description
  capabilities := []
  availability := .unavailable

/-- A request of a client, and what becomes of its answer. -/
def request {σ α : Type} (answer : Except Exc α) (cache : α → Stage Fault σ) : Stage Fault σ :=
  fun self =>
  match answer with
  | .ok value => cache value self
  | .error exc => (.error (.raised exc), self)

/-- `connect` around its `try` block: `False` for what it keeps to itself. -/
def connectBy {σ : Type} (negotiate : Stage Fault σ) (keeps : List String)
    (disconnect : σ → σ) (self : σ) :
    Except Fault Bool × σ :=
  match negotiate self with
  | (.ok (), self) => (.ok true, self)
  | (.error fault, self) =>
      if fault.isOf keeps then (.ok false, disconnect self) else (.error fault, self)

/-- `refresh_status`: where the provider is connected, its status is asked for and cached. -/
def refreshBy {σ α : Type} (isConnected : σ → Bool) (disconnect : σ → σ) (answer : Except Exc α)
    (availability : α → AvailabilityStatus) (cache : α → σ → σ) (self : σ) :
    AvailabilityStatus × σ :=
  if isConnected self then
    match answer with
    | .ok status => (availability status, cache status self)
    | .error _ => (.unavailable, disconnect self)
  else (.unavailable, self)

/-! ### Zarya -/

structure ProtocolResponse where
  current : String
  supported : List String

structure IdentityResponse where
  instanceId : String
  product : String
  version : String
  protocol : String
  platform : String
  architecture : String
  device : Option DeviceInfo := none

structure CapabilitiesResponse where
  protocol : String
  capabilities : List CapabilityEntry := []
  allowedTools : List String := []

/-- What the requests of the client come to during one call of the provider. -/
structure ZaryaClient where
  getProtocol : Except Exc ProtocolResponse
  getIdentity : Except Exc IdentityResponse
  getCapabilities : Except Exc CapabilitiesResponse
  getStatus : Except Exc EcosystemStatus

structure ZaryaProvider where
  identity : Option IdentityResponse := none
  capabilitiesResp : Option CapabilitiesResponse := none
  statusResp : Option EcosystemStatus := none
  discoveredCapabilities : List Capability := []
  isConnected : Bool := false

/-- The three responses as one report. -/
def zaryaReport (identity : IdentityResponse) (response : CapabilitiesResponse)
    (status : EcosystemStatus) :
    ZaryaReport where
  instanceId := identity.instanceId
  product := identity.product
  version := identity.version
  protocol := identity.protocol
  platform := identity.platform
  architecture := identity.architecture
  device := identity.device
  capabilities := response.capabilities
  allowedTools := response.allowedTools
  status := status

def zaryaClientErrors : List String :=
  ["ZaryaClientError", "ZaryaConnectionError", "ZaryaAuthenticationError", "ZaryaProtocolError",
    "ZaryaToolNotAllowedError", "ZaryaVerificationError", "ZaryaBusyError", "ZaryaUnavailableError"]

namespace ZaryaProvider

def expectedProtocol : String := "eip-1.0"

def disconnectedDescriptor : Provider :=
  disconnected ZaryaReport.providerIdZarya "Zarya (Disconnected)" "Zarya instance (not connected)"

def descriptor (self : ZaryaProvider) : Except Fault Provider :=
  match self.isConnected, self.identity, self.capabilitiesResp, self.statusResp with
  | true, some identity, some response, some status =>
      makeProvider db (zaryaReport identity response status).mapToShyamProvider
  | _, _, _, _ => makeProvider db disconnectedDescriptor

def mapCapabilitiesResponse (response : CapabilitiesResponse) : Except Fault (List Capability) :=
  response.capabilities.mapM fun entry =>
    makeCapability db (ZaryaReport.mapCapabilityEntryToCapability db.title entry)

def incompatible (proto : ProtocolResponse) : Exc where
  cls := "ZaryaProtocolError"
  text :=
    "Incompatible protocol. Expected '" ++ expectedProtocol ++ "', got '" ++ proto.current ++ "'"

def checkProtocol (proto : ProtocolResponse) : Stage Fault ZaryaProvider := fun self =>
  if expectedProtocol ∉ proto.supported ∧ proto.current ≠ expectedProtocol then
    (.error (.raised (incompatible proto)), self)
  else (.ok (), self)

def cacheIdentity (identity : IdentityResponse) : Stage Fault ZaryaProvider := fun self =>
  (.ok (), { self with identity := some identity })

/-- The response is cached before its capabilities are mapped. -/
def cacheCapabilities (response : CapabilitiesResponse) : Stage Fault ZaryaProvider := fun self =>
  let self := { self with capabilitiesResp := some response }
  match mapCapabilitiesResponse db response with
  | .ok caps => (.ok (), { self with discoveredCapabilities := caps })
  | .error fault => (.error fault, self)

def cacheStatus (status : EcosystemStatus) : Stage Fault ZaryaProvider := fun self =>
  (.ok (), { self with statusResp := some status, isConnected := true })

/-- The `try` block of `connect`. -/
def negotiate (client : ZaryaClient) : Stage Fault ZaryaProvider :=
  inOrder [request client.getProtocol checkProtocol, request client.getIdentity cacheIdentity,
    request client.getCapabilities (cacheCapabilities db), request client.getStatus cacheStatus]

def disconnect (self : ZaryaProvider) : ZaryaProvider := { self with isConnected := false }

def connect (client : ZaryaClient) (self : ZaryaProvider) : Except Fault Bool × ZaryaProvider :=
  connectBy (negotiate db client) zaryaClientErrors disconnect self

def refreshStatus (client : ZaryaClient) (self : ZaryaProvider) :
    AvailabilityStatus × ZaryaProvider :=
  refreshBy isConnected disconnect client.getStatus ZaryaReport.mapEcosystemStatusToAvailability
    (fun status self => { self with statusResp := some status }) self

end ZaryaProvider

/-! ### Flux -/

structure FluxIdentityResponse where
  peerId : String
  version : String
  protocolVersion : String

structure FluxStatusResponse where
  state : FluxNodeState
  discoveredPeerCount : ℕ := 0
  activePathCount : ℕ := 0

structure FluxClient where
  getIdentity : Except Exc FluxIdentityResponse
  getStatus : Except Exc FluxStatusResponse

structure FluxProvider where
  identity : Option FluxIdentityResponse := none
  statusResp : Option FluxStatusResponse := none
  isConnected : Bool := false

def fluxReport (identity : FluxIdentityResponse) (status : FluxStatusResponse) : FluxReport where
  peerId := identity.peerId
  version := identity.version
  protocolVersion := identity.protocolVersion
  state := status.state
  discoveredPeerCount := status.discoveredPeerCount
  activePathCount := status.activePathCount

/-- The errors of the client that `connect` keeps to itself: all but `FluxProtocolError`. -/
def fluxClientErrors : List String :=
  ["FluxClientError", "FluxConnectionError", "FluxPeerNotFoundError", "FluxTransferError",
    "FluxUnavailableError"]

namespace FluxProvider

def expectedProtocolVersion : String := "1.0"

def disconnectedDescriptor : Provider :=
  disconnected FluxReport.providerIdFlux "Flux Connectivity (Disconnected)"
    "Aryntra Flux provider (not connected)"

def descriptor (self : FluxProvider) : Except Fault Provider :=
  match self.isConnected, self.identity, self.statusResp with
  | true, some identity, some status =>
      makeProvider db (fluxReport identity status).mapToShyamProvider
  | _, _, _ => makeProvider db disconnectedDescriptor

def capabilityDefinitions (self : FluxProvider) : List Capability :=
  if self.isConnected then FluxReport.capabilityDefinitions else []

def peerId (self : FluxProvider) : Option String :=
  if self.isConnected then self.identity.map FluxIdentityResponse.peerId else none

def incompatible (identity : FluxIdentityResponse) : Exc where
  cls := "FluxProtocolError"
  text := "Incompatible Flux protocol. Expected major '" ++ expectedProtocolVersion ++ "', got '"
    ++ identity.protocolVersion ++ "'"

/-- The identity is cached before its protocol version is checked, for the leading "1" alone. -/
def cacheIdentity (identity : FluxIdentityResponse) : Stage Fault FluxProvider := fun self =>
  let self := { self with identity := some identity }
  if identity.protocolVersion.toList.head? = some '1' then (.ok (), self)
  else (.error (.raised (incompatible identity)), self)

def cacheStatus (status : FluxStatusResponse) : Stage Fault FluxProvider := fun self =>
  (.ok (), { self with statusResp := some status, isConnected := true })

/-- The `try` block of `connect`. -/
def negotiate (client : FluxClient) : Stage Fault FluxProvider :=
  inOrder [request client.getIdentity cacheIdentity, request client.getStatus cacheStatus]

def disconnect (self : FluxProvider) : FluxProvider := { self with isConnected := false }

def connect (client : FluxClient) (self : FluxProvider) : Except Fault Bool × FluxProvider :=
  connectBy (negotiate client) fluxClientErrors disconnect self

def refreshStatus (client : FluxClient) (self : FluxProvider) : AvailabilityStatus × FluxProvider :=
  refreshBy isConnected disconnect client.getStatus
    (fun status => FluxReport.mapFluxStateToAvailability status.state)
    (fun status self => { self with statusResp := some status }) self

end FluxProvider

/-! ### What the node does with either of them -/

/-- A sovereign provider `σ`, whose gateway answers a call with `γ`. -/
structure Component (σ γ : Type) where
  providerId : String
  isConnected : σ → Bool
  connect : γ → σ → Except Fault Bool × σ
  refreshStatus : γ → σ → AvailabilityStatus × σ
  descriptor : σ → Except Fault Provider
  capabilityDefinitions : σ → List Capability
  metadata : σ → Dict PyValue

def zarya : Component ZaryaProvider ZaryaClient where
  providerId := ZaryaReport.providerIdZarya
  isConnected := ZaryaProvider.isConnected
  connect := ZaryaProvider.connect db
  refreshStatus := ZaryaProvider.refreshStatus
  descriptor := ZaryaProvider.descriptor db
  capabilityDefinitions := ZaryaProvider.discoveredCapabilities
  metadata _ := ∅

/-- The readiness of Flux is reported with its peer id. -/
def flux : Component FluxProvider FluxClient where
  providerId := FluxReport.providerIdFlux
  isConnected := FluxProvider.isConnected
  connect := FluxProvider.connect
  refreshStatus := FluxProvider.refreshStatus
  descriptor := FluxProvider.descriptor db
  capabilityDefinitions := FluxProvider.capabilityDefinitions
  metadata self :=
    match self.peerId with
    | some peerId => if peerId = "" then ∅ else (∅ : Dict PyValue).set "peer_id" (.str peerId)
    | none => ∅

end Sovereign

end Shyam
