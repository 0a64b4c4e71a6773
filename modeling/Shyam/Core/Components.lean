import Shyam.Discovery.Ecosystem
import Shyam.Providers.Descriptors

/-!
# The components of the local node

The provider and capability registries, as the start of the runtime and the readiness tracker fill
them. Zarya and Flux connect, change their status and go away at any time; what they registered
stays. Their capabilities are registered one by one, and the local node may be discovered in
between.
-/

namespace Shyam

open Python

/-- The two registries, and what the connected instances have reported. -/
structure LocalComponents where
  providers : Dict Provider := ∅
  capabilities : Dict Capability := ∅
  zarya : Option ZaryaReport := none
  flux : Option FluxReport := none

inductive ComponentAction where
  | zaryaConnected (report : ZaryaReport)
  | zaryaCapability (entry : CapabilityEntry)
  | zaryaStatus (status : EcosystemStatus)
  | zaryaReady
  | zaryaLost
  | fluxConnected (report : FluxReport)
  | fluxCapability (i : Fin FluxReport.capabilityDefinitions.length)
  | fluxStatus (state : FluxNodeState) (discoveredPeerCount activePathCount : ℕ)
  | fluxReady
  | fluxLost

namespace LocalComponents

/-- `register(provider, overwrite=True)`. -/
def registerProvider (self : LocalComponents) (provider : Provider) : LocalComponents :=
  { self with providers := self.providers.set provider.providerId provider }

/-- `register(cap, overwrite=True)`. -/
def registerCapability (self : LocalComponents) (cap : Capability) : LocalComponents :=
  { self with capabilities := self.capabilities.set cap.capabilityId cap }

/-! ### The start -/

def ensureCapability (self : LocalComponents) (cap : Capability) : LocalComponents :=
  if (self.capabilities.get? cap.capabilityId).isSome then self else self.registerCapability cap

/-- The fabric of local providers, which holds the filesystem; `initialized` is
whether it came up. -/
def startFabric (self : LocalComponents) (initialized : Bool) : LocalComponents :=
  let self := LocalFilesystemProvider.capabilityDefinitions.foldl ensureCapability self
  let self := self.registerProvider LocalFilesystemProvider.descriptor
  self.registerProvider
    { LocalFilesystemProvider.descriptor with
      availability := if initialized then .available else .unavailable }

def inspectCapability : Capability where
  capabilityId := "shyam.runtime.inspect"
  name := "Runtime Introspection"
  version := "1.0.0"
  description := "Inspect local Shyam node status, identity, and capabilities"
  availability := .available

def start (initialized : Bool) : LocalComponents :=
  (({} : LocalComponents).registerCapability inspectCapability).startFabric initialized

/-! ### Zarya and Flux -/

variable (title : String → String)

def step (self : LocalComponents) : ComponentAction → LocalComponents
  | .zaryaConnected report =>
      { self with zarya := some report }.registerProvider report.mapToShyamProvider
  | .zaryaCapability entry =>
      self.registerCapability (ZaryaReport.mapCapabilityEntryToCapability title entry)
  | .zaryaStatus status =>
      { self with zarya := self.zarya.map fun report => { report with status } }
  | .zaryaReady =>
      match self.zarya with
      | some report => self.registerProvider report.mapToShyamProvider
      | none => self
  | .zaryaLost => { self with zarya := none }
  | .fluxConnected report =>
      { self with flux := some report }.registerProvider report.mapToShyamProvider
  | .fluxCapability i => self.registerCapability (FluxReport.capabilityDefinitions.get i)
  | .fluxStatus state discoveredPeerCount activePathCount =>
      { self with
        flux := self.flux.map fun report =>
          { report with state, discoveredPeerCount, activePathCount } }
  | .fluxReady =>
      match self.flux with
      | some report => self.registerProvider report.mapToShyamProvider
      | none => self
  | .fluxLost => { self with flux := none }

/-- What the discovery of the local node reads. -/
def fabric (self : LocalComponents) : LocalFabric where
  providers := self.providers.entries.map Prod.snd
  capabilities := self.capabilities
  zarya := self.zarya.map fun report =>
    (report.mapToShyamProvider,
      report.capabilities.map (ZaryaReport.mapCapabilityEntryToCapability title))
  flux := self.flux.map fun report => (report.mapToShyamProvider, FluxReport.capabilityDefinitions)

end LocalComponents

end Shyam
