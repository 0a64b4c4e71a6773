import Shyam.Discovery.Ecosystem
import Shyam.Providers.Sovereign

/-!
# The discovery of the local node

The local node is put together anew for every snapshot, from the two registries and from what Zarya
and Flux have cached. What the models refuse there makes the discovery raise.
-/

namespace Shyam

open Python

namespace Sovereign

/-- The provider registry and the capability registry. -/
structure Registries where
  providers : Dict Provider
  capabilities : Dict Capability
  providers_keyed : ∀ id provider, providers.get? id = some provider → provider.providerId = id
  capabilities_keyed : ∀ id cap, capabilities.get? id = some cap → cap.capabilityId = id

variable (db : CharacterDatabase)

namespace Registries

def empty : Registries := ⟨∅, ∅, by simp, by simp⟩

/-- `register(provider, overwrite=True)`. -/
def registerProvider (self : Registries) (provider : Provider) : Registries :=
  { self with
    providers := self.providers.set provider.providerId provider
    providers_keyed := by
      intro id p h
      rw [Dict.get?_set] at h
      split_ifs at h with hid
      · rw [← Option.some.inj h, hid]
      · exact self.providers_keyed id p h }

/-- `register(cap, overwrite=True)`. -/
def registerCapability (self : Registries) (cap : Capability) : Registries :=
  { self with
    capabilities := self.capabilities.set cap.capabilityId cap
    capabilities_keyed := by
      intro id c h
      rw [Dict.get?_set] at h
      split_ifs at h with hid
      · rw [← Option.some.inj h, hid]
      · exact self.capabilities_keyed id c h }

/-- A capability that is not registered is made from its id alone. -/
def capabilityModel (self : Registries) (prov : Provider) (cid : String) :
    Except Fault Capability :=
  match self.capabilities.get? cid with
  | some cap => .ok cap
  | none =>
      makeCapability db { capabilityId := cid, name := cid, availability := prov.availability }

def listProvider (self : Registries) (now : DateTime) (discovered : ProviderMap) (prov : Provider) :
    Except Fault ProviderMap := do
  let models ← prov.capabilities.mapM (self.capabilityModel db prov)
  return discovered.put (.fromProvider prov models now)

def listProviders (self : Registries) (now : DateTime) : Except Fault ProviderMap :=
  (self.providers.entries.map Prod.snd).foldlM (self.listProvider db now) .empty

end Registries

/-- Connected, and not in the registry. -/
def Component.listMissing {σ γ : Type} (component : Component σ γ) (now : DateTime) (provider : σ)
    (discovered : ProviderMap) : Except Fault ProviderMap :=
  if component.isConnected provider then do
    let descriptor ← component.descriptor provider
    return discovered.putMissing
      (.fromProvider descriptor (component.capabilityDefinitions provider) now)
  else return discovered

/-- What the discovery service reads on the local node. -/
structure LocalSources where
  registries : Registries := .empty
  zarya : ZaryaProvider := {}
  flux : FluxProvider := {}

namespace LocalSources

def localProviders (self : LocalSources) (now : DateTime) : Except Fault ProviderMap := do
  let discovered ← self.registries.listProviders db now
  let discovered ← (Sovereign.zarya db).listMissing now self.zarya discovered
  (Sovereign.flux db).listMissing now self.flux discovered

def localNode (identity : LocalIdentity) (now : DateTime) (registry : EcosystemRegistry)
    (providers : ProviderMap) : DiscoveredNode :=
  { EcosystemDiscoveryService.localNode identity now {} registry with providers }

def discoverLocalNode (self : LocalSources) (identity : LocalIdentity) (now : DateTime)
    (registry : EcosystemRegistry) : Except Fault EcosystemRegistry := do
  let providers ← self.localProviders db now
  return registry.registerNode (localNode identity now registry providers)

/-- `answer` is what Flux says of its peers, if it is connected. -/
def discover (self : LocalSources) (identity : LocalIdentity) (now : DateTime)
    (answer : EcosystemDiscoveryService.GatewayAnswer) (registry : EcosystemRegistry) :
    Except Fault (EcosystemSnapshot × EcosystemRegistry) := do
  let registry ← self.discoverLocalNode db identity now registry
  let registry := match answer with
    | .returned now peers => EcosystemDiscoveryService.ingestFluxPeers now peers registry
    | .disconnected | .failed => registry
  return (registry.createSnapshot identity.nodeId, registry)

end LocalSources

end Sovereign

end Shyam
