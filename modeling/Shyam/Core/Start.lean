import Shyam.Core.Components
import Shyam.Core.Lifecycle
import Shyam.Core.Readiness

/-!
# The start of the runtime

The stages of the initialization in their order. The local stages are those of the node itself;
Zarya, Flux and the discovery of the local node depend on what the gateways answer.
-/

namespace Shyam

open Python Fallible

namespace Sovereign

inductive LocalStage where
  | dataDirectory
  | identity
  | keypair
  | trust
  | selfTrust
  | syncService
  | bootstrapService
  | continuityService
  | identityReadyEvent
  | inspectCapability
  | providerFabric
  | ecosystemService
  | subscriptions
  | contextService
  | discoveryService
deriving DecidableEq, Repr

/-- The node and the gateways during one start. `connecting` is what the gateways answer to
`connect`, `firstRound` what they answer to the first round of the tracker. -/
structure Surroundings where
  identity : LocalIdentity
  now : DateTime
  faults : LocalStage → Option Exc := fun _ => none
  fabricInitialized : Bool := true
  connecting : GatewayAnswers
  firstRound : GatewayAnswers

namespace Registries

def ensureCapability (self : Registries) (cap : Capability) : Registries :=
  if (self.capabilities.get? cap.capabilityId).isSome then self else self.registerCapability cap

/-- The fabric of local providers, which holds the filesystem; `initialized` is
whether it came up. -/
def startFabric (self : Registries) (initialized : Bool) : Registries :=
  let self := LocalFilesystemProvider.capabilityDefinitions.foldl ensureCapability self
  let self := self.registerProvider LocalFilesystemProvider.descriptor
  self.registerProvider
    { LocalFilesystemProvider.descriptor with
      availability := if initialized then .available else .unavailable }

end Registries

namespace NodeComponents

variable (db : CharacterDatabase)

/-- A stage that raises does so before it changes anything. -/
def locally (surroundings : Surroundings) (stage : LocalStage)
    (effect : NodeComponents → NodeComponents) :
    Stage Fault NodeComponents := fun self =>
  match surroundings.faults stage with
  | some exc => (.error (.raised exc), self)
  | none => (.ok (), effect self)

def registerInspect (self : NodeComponents) : NodeComponents :=
  { self with registries := self.registries.registerCapability LocalComponents.inspectCapability }

def startFabric (surroundings : Surroundings) (self : NodeComponents) : NodeComponents :=
  { self with registries := self.registries.startFabric surroundings.fabricInitialized }

/-- `connect`, and the registration where it says that it is connected. -/
def integrate {σ γ : Type} (component : Component σ γ) (client : γ) :
    Stage Fault (σ × Registries) :=
  fun (provider, registries) =>
    match component.connect client provider with
    | (.ok true, provider) =>
        match component.register provider registries with
        | (outcome, registries) => (outcome, provider, registries)
    | (.ok false, provider) => (.ok (), provider, registries)
    | (.error fault, provider) => (.error fault, provider, registries)

def integrateZarya (client : ZaryaClient) : Stage Fault NodeComponents := fun self =>
  if self.zaryaEnabled then
    match integrate (Sovereign.zarya db) client (self.zarya.provider, self.registries) with
    | (outcome, provider, registries) =>
        (outcome, { self with zarya := { self.zarya with provider }, registries })
  else (.ok (), self)

def integrateFlux (client : FluxClient) : Stage Fault NodeComponents := fun self =>
  if self.fluxEnabled then
    match integrate (Sovereign.flux db) client (self.flux.provider, self.registries) with
    | (outcome, provider, registries) =>
        (outcome, { self with flux := { self.flux with provider }, registries })
  else (.ok (), self)

def discoverLocalNode (surroundings : Surroundings) : Stage Fault NodeComponents := fun self =>
  match self.sources.discoverLocalNode db surroundings.identity surroundings.now self.ecosystem with
  | .ok ecosystem => (.ok (), { self with ecosystem })
  | .error fault => (.error fault, self)

/-- The `try` block of `start`. -/
def initialization (surroundings : Surroundings) : Stage Fault NodeComponents :=
  inOrder [locally surroundings .dataDirectory id, locally surroundings .identity id,
    locally surroundings .keypair id, locally surroundings .trust id,
    locally surroundings .selfTrust id, locally surroundings .syncService id,
    locally surroundings .bootstrapService id,
    locally surroundings .continuityService id, locally surroundings .identityReadyEvent id,
    locally surroundings .inspectCapability registerInspect,
    locally surroundings .providerFabric (startFabric surroundings),
    integrateZarya db surroundings.connecting.zarya, integrateFlux db surroundings.connecting.flux,
    locally surroundings .ecosystemService id, discoverLocalNode db surroundings,
    locally surroundings .subscriptions id, locally surroundings .contextService id,
    locally surroundings .discoveryService id]

def startTracker (surroundings : Surroundings) : Stage Fault NodeComponents :=
  inOrder [setNodeReady, startPolling db surroundings.firstRound]

end NodeComponents

/-- `ShyamRuntime.start`. -/
def start (db : CharacterDatabase) (call : Runtime.Call Fault) (surroundings : Surroundings) :
    Stage (RuntimeFault Fault) (Runtime NodeComponents) :=
  Runtime.start call (NodeComponents.initialization db surroundings)
    (NodeComponents.startTracker db surroundings)

end Sovereign

end Shyam
