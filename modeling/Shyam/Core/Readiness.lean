import Shyam.Discovery.LocalNode

/-!
# The readiness tracker

It polls Zarya and Flux, and registers what a component offers when it becomes ready. What a
component has registered stays in the registries when it goes away. The events of the tracker are
left out.
-/

namespace Shyam

open Python Fallible

namespace Sovereign

inductive ComponentState where
  | unknown
  | starting
  | ready
  | degraded
  | unavailable
  | failed
deriving DecidableEq, Repr

inductive EcosystemReadiness where
  | starting
  | ready
  | degraded
  | unavailable
deriving DecidableEq, Repr

/-- `error` is the exception whose text is kept. -/
structure ComponentReadinessSnapshot where
  state : ComponentState := .starting
  error : Option Fault := none
  metadata : Dict PyValue := ∅

/-- A provider, and what the tracker says of its component. -/
structure Tracked (σ : Type) where
  provider : σ
  snapshot : ComponentReadinessSnapshot := {}

/-! ### One component -/

def stateOf : AvailabilityStatus → ComponentState
  | .available => .ready
  | .registered => .starting
  | .unavailable => .unavailable

namespace Component

variable {σ γ : Type} (component : Component σ γ)

/-- The `try` block of an evaluation. -/
def check (client : γ) (provider : σ) : ComponentReadinessSnapshot × σ :=
  if component.isConnected provider then
    let (status, provider) := component.refreshStatus client provider
    ({ state := stateOf status, metadata := component.metadata provider }, provider)
  else
    match component.connect client provider with
    | (.ok connected, provider) =>
        ({ state := if connected then .ready else .unavailable
           metadata := component.metadata provider },
          provider)
    | (.error fault, provider) => ({ state := .failed, error := some fault }, provider)

/-- The descriptor, then the capabilities. -/
def register (provider : σ) : Stage Fault Registries := fun registries =>
  match component.descriptor provider with
  | .ok descriptor =>
      (.ok (), (component.capabilityDefinitions provider).foldl Registries.registerCapability
        (registries.registerProvider descriptor))
  | .error fault => (.error fault, registries)

/-- What becomes ready is registered; the snapshot is written only after that. -/
def evaluate (client : γ) : Stage Fault (Tracked σ × Registries) := fun (tracked, registries) =>
  let (snapshot, provider) := component.check client tracked.provider
  if snapshot.state = .ready ∧ tracked.snapshot.state ≠ .ready then
    match component.register provider registries with
    | (.ok (), registries) => (.ok (), ⟨provider, snapshot⟩, registries)
    | (.error fault, registries) => (.error fault, { tracked with provider }, registries)
  else (.ok (), ⟨provider, snapshot⟩, registries)

end Component

/-! ### The components of the node -/

/-- What the two gateways answer in one round. -/
structure GatewayAnswers where
  zarya : ZaryaClient
  flux : FluxClient

structure NodeComponents where
  zaryaEnabled : Bool
  fluxEnabled : Bool
  registries : Registries := .empty
  zarya : Tracked ZaryaProvider := { provider := {} }
  flux : Tracked FluxProvider := { provider := {} }
  node : ComponentState := .starting
  readiness : EcosystemReadiness := .starting
  polling : Bool := false
  ecosystem : EcosystemRegistry := .empty

namespace NodeComponents

variable (db : CharacterDatabase)

def evaluateZarya (client : ZaryaClient) : Stage Fault NodeComponents := fun self =>
  if self.zaryaEnabled then
    match (Sovereign.zarya db).evaluate client (self.zarya, self.registries) with
    | (outcome, zarya, registries) => (outcome, { self with zarya, registries })
  else (.ok (), self)

def evaluateFlux (client : FluxClient) : Stage Fault NodeComponents := fun self =>
  if self.fluxEnabled then
    match (Sovereign.flux db).evaluate client (self.flux, self.registries) with
    | (outcome, flux, registries) => (outcome, { self with flux, registries })
  else (.ok (), self)

/-- The states of the enabled components. -/
def activeStates (self : NodeComponents) : List ComponentState :=
  (if self.zaryaEnabled then [self.zarya.snapshot.state] else [])
    ++ (if self.fluxEnabled then [self.flux.snapshot.state] else [])

def ecosystemReadiness (self : NodeComponents) : EcosystemReadiness :=
  if self.node ≠ .ready then .starting
  else if self.activeStates.all (· = .ready) then .ready
  else if self.activeStates.any (· = .ready) then .degraded
  else if self.activeStates.any (· = .starting) then .starting
  else .degraded

def evaluateEcosystemReadiness : Stage Fault NodeComponents := fun self =>
  (.ok (), { self with readiness := self.ecosystemReadiness })

def pollAllComponents (answers : GatewayAnswers) : Stage Fault NodeComponents :=
  inOrder [evaluateZarya db answers.zarya, evaluateFlux db answers.flux, evaluateEcosystemReadiness]

def setNodeReady : Stage Fault NodeComponents := fun self => (.ok (), { self with node := .ready })

/-- The tracker starts with a first round. -/
def startPolling (answers : GatewayAnswers) : Stage Fault NodeComponents := fun self =>
  if self.polling then (.ok (), self)
  else pollAllComponents db answers { self with polling := true }

/-- A round of the polling loop, which logs what it raises. -/
def round (self : NodeComponents) (answers : GatewayAnswers) : NodeComponents :=
  after self (pollAllComponents db answers)

def sources (self : NodeComponents) : LocalSources where
  registries := self.registries
  zarya := self.zarya.provider
  flux := self.flux.provider

end NodeComponents

end Sovereign

end Shyam
