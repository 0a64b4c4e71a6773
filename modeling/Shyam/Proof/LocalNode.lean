import Shyam.Proof.LocalDispatch
import Shyam.Proof.SovereignProviders

/-!
# When the local node can be discovered

A connected component is described anew for every snapshot, from an identity that nobody has
checked. The discovery of the local node raises exactly when one of these descriptors is refused, or
an id that is listed but not registered.
-/

namespace Shyam

open Python Checks Transition Fallible

namespace Sovereign

variable {db : CharacterDatabase} {now : DateTime} {acc result : ProviderMap}

/-! ### The registries -/

namespace Registries

variable {registries : Registries} {prov : Provider} {cid : String}

/-- The registries alone, as the pure discovery reads them. -/
def fabric (self : Registries) : LocalFabric where
  providers := self.providers.entries.map Prod.snd
  capabilities := self.capabilities

/-- Every listed capability is registered, or has an id that a capability may have. -/
def Lists (db : CharacterDatabase) (self : Registries) (prov : Provider) : Prop :=
  ∀ cid ∈ prov.capabilities,
    (self.capabilities.get? cid).isSome ∨ ∃ v, Capability.validateCapabilityId db cid = .ok v

theorem validateVersion_default (db : CharacterDatabase) :
    validateVersion db "1.0.0" = .ok "1.0.0" := by
  have hascii : IsAscii "1.0.0" := by decide
  rw [validateVersion_of_ascii hascii]
  decide

theorem capabilityModel_eq_ok_iff {cap : Capability} :
    registries.capabilityModel db prov cid = .ok cap
    ↔ ((registries.capabilities.get? cid).isSome ∨ ∃ v,
      Capability.validateCapabilityId db cid = .ok v)
      ∧ cap = EcosystemDiscoveryService.capabilityModel registries.fabric prov cid := by
  rw [capabilityModel, EcosystemDiscoveryService.capabilityModel, fabric]
  cases hcap : registries.capabilities.get? cid with
  | some registered => simp [eq_comm]
  | none =>
      simp only [makeCapability_eq_ok_iff, Capability.errors, List.append_eq_nil_iff,
        failures_eq_nil_iff, validateVersion_default db]
      simp

/-- A registered provider as it is discovered. -/
def discovered (self : Registries) (now : DateTime) (prov : Provider) : DiscoveredProvider :=
  .fromProvider prov
    (prov.capabilities.map (EcosystemDiscoveryService.capabilityModel self.fabric prov)) now

theorem listProvider_eq_ok_iff : registries.listProvider db now acc prov = .ok result
    ↔ registries.Lists db prov ∧ result = acc.put (registries.discovered now prov) := by
  rw [listProvider, bind_eq_ok_iff]
  simp only [pure_eq_ok_iff, mapM_eq_ok_iff fun _ _ => capabilityModel_eq_ok_iff]
  constructor
  · rintro ⟨_, ⟨hlists, rfl⟩, rfl⟩
    exact ⟨hlists, rfl⟩
  · rintro ⟨hlists, rfl⟩
    exact ⟨_, ⟨hlists, rfl⟩, rfl⟩

/-- The registered providers, as they are discovered. -/
def listed (self : Registries) (now : DateTime) : ProviderMap :=
  (self.providers.entries.map Prod.snd).foldl (fun m prov => m.put (self.discovered now prov))
    .empty

theorem listProviders_eq_ok_iff : registries.listProviders db now = .ok result
    ↔ (∀ id prov, registries.providers.get? id = some prov → registries.Lists db prov)
      ∧ result = registries.listed now := by
  have hlist : ∀ acc prov result, registries.listProvider db now acc prov = .ok result
      ↔ registries.Lists db prov ∧ result = acc.put (registries.discovered now prov) :=
    fun _ _ _ => listProvider_eq_ok_iff
  rw [listProviders, foldlM_eq_ok_iff hlist, listed, List.forall_mem_map]
  refine and_congr_left' ?_
  simp only [Dict.get?_eq_some_iff, Prod.forall]

theorem get?_listed (registries : Registries) (now : DateTime) (id : String) :
    (registries.listed now).entries.get? id
      = (registries.providers.get? id).map (registries.discovered now) := by
  have hkeyed : ∀ e ∈ registries.providers.entries, e.2.providerId = e.1 := fun e he =>
    registries.providers_keyed e.1 e.2 (Dict.get?_eq_some_iff.mpr he)
  rw [listed, LocalComponents.get?_foldl_put registries.providers.nodup hkeyed fun _ => rfl]
  exact Option.or_none

/-- One entry for each id that is listed. -/
theorem capabilities_discovered (registries : Registries) (now : DateTime) (prov : Provider) :
    (registries.discovered now prov).capabilities = prov.capabilities.map fun cid =>
      .fromCapability (EcosystemDiscoveryService.capabilityModel registries.fabric prov cid) := by
  rw [discovered, DiscoveredProvider.fromProvider]
  dsimp only
  split_ifs with hnone
  · rw [List.map_eq_nil_iff.mp hnone]
    rfl
  · rw [List.map_map]
    rfl

theorem capabilityId_capabilityModel (registries : Registries) (prov : Provider) (cid : String) :
    (EcosystemDiscoveryService.capabilityModel registries.fabric prov cid).capabilityId = cid := by
  rw [EcosystemDiscoveryService.capabilityModel, fabric]
  cases hcap : registries.capabilities.get? cid with
  | none => rfl
  | some cap => exact registries.capabilities_keyed cid cap hcap

theorem capabilityIds_discovered (registries : Registries) (now : DateTime) (prov : Provider) :
    (registries.discovered now prov).capabilities.map DiscoveredCapability.capabilityId
      = prov.capabilities := by
  rw [capabilities_discovered, List.map_map]
  exact (List.map_congr_left fun cid _ => registries.capabilityId_capabilityModel prov cid).trans
    (List.map_id _)

end Registries

/-! ### Components that are not registered -/

namespace Contract

variable {σ γ : Type} {component : Component σ γ} (contract : Contract db component) {provider : σ}

def listed (now : DateTime) (provider : σ) (acc : ProviderMap) : ProviderMap :=
  if component.isConnected provider then
    acc.putMissing
      (.fromProvider (contract.described provider) (component.capabilityDefinitions provider) now)
  else acc

theorem listMissing_eq_ok_iff : component.listMissing now provider acc = .ok result
    ↔ contract.Presentable provider ∧ result = contract.listed now provider acc := by
  rw [Component.listMissing, listed]
  cases hconnected : component.isConnected provider with
  | false =>
      have hpresentable : contract.Presentable provider := fun v hv => by
        rw [contract.offer_eq_none hconnected] at hv
        cases hv
      rw [and_iff_right hpresentable]
      exact pure_eq_ok_iff
  | true =>
      rw [if_pos rfl, if_pos rfl, bind_eq_ok_iff]
      simp only [pure_eq_ok_iff, contract.descriptor_eq_ok_iff]
      constructor
      · rintro ⟨_, ⟨hpresentable, rfl⟩, rfl⟩
        exact ⟨hpresentable, rfl⟩
      · rintro ⟨hpresentable, rfl⟩
        exact ⟨_, ⟨hpresentable, rfl⟩, rfl⟩

/-- What is there already stays. -/
theorem get?_listed_of_some {id : String} {entry : DiscoveredProvider}
    (h : acc.entries.get? id = some entry) (now : DateTime) (provider : σ) :
    (contract.listed now provider acc).entries.get? id = some entry := by
  rw [listed]
  split_ifs
  · rw [ProviderMap.putMissing]
    split_ifs with hpresent
    · exact h
    · rw [ProviderMap.put, Dict.get?_set]
      split_ifs with hid
      · rw [← hid, h] at hpresent
        exact absurd rfl hpresent
      · exact h
  · exact h

end Contract

/-! ### The local node -/

namespace LocalSources

variable {sources : LocalSources} {identity : LocalIdentity}
  {answer : EcosystemDiscoveryService.GatewayAnswer} {registry : EcosystemRegistry}

/-- Nothing that the discovery looks at would be refused. -/
structure Presentable (db : CharacterDatabase) (sources : LocalSources) : Prop where
  registered : ∀ id prov, sources.registries.providers.get? id = some prov →
    sources.registries.Lists db prov
  zarya : (ZaryaProvider.contract db).Presentable sources.zarya
  flux : (FluxProvider.contract db).Presentable sources.flux

def listed (db : CharacterDatabase) (self : LocalSources) (now : DateTime) : ProviderMap :=
  (FluxProvider.contract db).listed now self.flux
    ((ZaryaProvider.contract db).listed now self.zarya (self.registries.listed now))

theorem localProviders_eq_ok_iff : sources.localProviders db now = .ok result
    ↔ sources.Presentable db ∧ result = sources.listed db now := by
  rw [localProviders, bind_eq_ok_iff]
  simp only [bind_eq_ok_iff, Registries.listProviders_eq_ok_iff,
    (ZaryaProvider.contract db).listMissing_eq_ok_iff,
    (FluxProvider.contract db).listMissing_eq_ok_iff]
  constructor
  · rintro ⟨_, ⟨hregistered, rfl⟩, _, ⟨hzarya, rfl⟩, hflux, rfl⟩
    exact ⟨⟨hregistered, hzarya, hflux⟩, rfl⟩
  · rintro ⟨⟨hregistered, hzarya, hflux⟩, rfl⟩
    exact ⟨_, ⟨hregistered, rfl⟩, _, ⟨hzarya, rfl⟩, hflux, rfl⟩

theorem discoverLocalNode_eq_ok_iff {registry' : EcosystemRegistry} :
    sources.discoverLocalNode db identity now registry = .ok registry'
      ↔ sources.Presentable db
        ∧ registry'
          = registry.registerNode (localNode identity now registry (sources.listed db now)) := by
  rw [discoverLocalNode, bind_eq_ok_iff]
  simp only [pure_eq_ok_iff, localProviders_eq_ok_iff]
  constructor
  · rintro ⟨_, ⟨hpresentable, rfl⟩, rfl⟩
    exact ⟨hpresentable, rfl⟩
  · rintro ⟨hpresentable, rfl⟩
    exact ⟨_, ⟨hpresentable, rfl⟩, rfl⟩

/-- The registry after a discovery that does not raise. -/
def discovered (db : CharacterDatabase) (self : LocalSources) (identity : LocalIdentity)
    (now : DateTime) (answer : EcosystemDiscoveryService.GatewayAnswer)
    (registry : EcosystemRegistry) : EcosystemRegistry :=
  let registry := registry.registerNode (localNode identity now registry (self.listed db now))
  match answer with
  | .returned now peers => EcosystemDiscoveryService.ingestFluxPeers now peers registry
  | .disconnected | .failed => registry

theorem discover_eq_ok_iff {outcome : EcosystemSnapshot × EcosystemRegistry} :
    sources.discover db identity now answer registry = .ok outcome
      ↔ sources.Presentable db
        ∧ outcome
          = ((sources.discovered db identity now answer registry).createSnapshot identity.nodeId,
          sources.discovered db identity now answer registry) := by
  rw [discover, bind_eq_ok_iff]
  simp only [discoverLocalNode_eq_ok_iff]
  constructor
  · rintro ⟨_, ⟨hpresentable, rfl⟩, h⟩
    exact ⟨hpresentable, pure_eq_ok_iff.mp h⟩
  · rintro ⟨hpresentable, rfl⟩
    exact ⟨_, ⟨hpresentable, rfl⟩, pure_eq_ok_iff.mpr rfl⟩

/-- The peers of Flux leave the local node alone. -/
theorem getNode_discovered (hid : IsUuidText identity.nodeId) :
    (sources.discovered db identity now answer registry).getNode identity.nodeId
      = some (localNode identity now registry (sources.listed db now)) := by
  have hself :
    (registry.registerNode (localNode identity now registry (sources.listed db now))).getNode
      identity.nodeId = some (localNode identity now registry (sources.listed db now)) :=
    (EcosystemRegistry.getNode_registerNode _ _ _).trans (if_pos rfl)
  unfold discovered
  cases answer with
  | disconnected => exact hself
  | failed => exact hself
  | returned now' peers =>
      exact (EcosystemDiscoveryService.getNode_ingestFluxPeers_other hid _ _).trans hself

theorem get?_listed {id : String} {prov : Provider}
    (h : sources.registries.providers.get? id = some prov) (db : CharacterDatabase)
    (now : DateTime) :
    (sources.listed db now).entries.get? id = some (sources.registries.discovered now prov) := by
  have hregistered : (sources.registries.listed now).entries.get? id
      = some (sources.registries.discovered now prov) := by
    rw [Registries.get?_listed, h]
    rfl
  exact (FluxProvider.contract db).get?_listed_of_some
    ((ZaryaProvider.contract db).get?_listed_of_some hregistered now _) now _

end LocalSources

/-! ### Versions -/

/-- The stage of a request keeps what the caching of each answer keeps. -/
theorem after_request {σ α : Type} {I : σ → Prop} {answer : Except Exc α}
    {cache : α → Stage Fault σ}
    (hcache : ∀ value, answer = .ok value → ∀ s, I s → I (after s (cache value)))
    {s : σ} (hs : I s) :
    I (after s (request answer cache)) := by
  cases answer with
  | ok value => exact hcache value rfl s hs
  | error exc => exact hs

namespace ZaryaProvider

variable {client : ZaryaClient} {provider : ZaryaProvider}

def Versioned (db : CharacterDatabase) (self : ZaryaProvider) : Prop :=
  ∀ identity, self.identity = some identity → ∃ v, validateVersion db identity.version = .ok v

theorem versioned_negotiate (hanswer : ∀ identity, client.getIdentity = .ok identity →
      ∃ v, validateVersion db identity.version = .ok v) (h : provider.Versioned db) :
    (after provider (negotiate db client)).Versioned db := by
  refine inOrder_invariant (I := Versioned db) ?_ h
  simp only [List.forall_mem_cons, List.not_mem_nil, false_imp_iff, implies_true, and_true]
  refine ⟨fun s hs => ?_, fun s hs => ?_, fun s hs => ?_, fun s hs => ?_⟩
  · refine after_request (fun proto _ s hs => ?_) hs
    rw [after, checkProtocol]
    split_ifs
    · exact hs
    · exact hs
  · refine after_request (fun identity hidentity s _ => ?_) hs
    rintro _ ⟨⟩
    exact hanswer identity hidentity
  · refine after_request (fun response _ s hs => ?_) hs
    rw [after, cacheCapabilities]
    dsimp only
    split
    · exact hs
    · exact hs
  · exact after_request (fun status _ s hs => hs) hs

theorem versioned_connect (hanswer : ∀ identity, client.getIdentity = .ok identity →
      ∃ v, validateVersion db identity.version = .ok v) (h : provider.Versioned db) :
    (connect db client provider).2.Versioned db :=
  connectBy_invariant (I := Versioned db) (fun _ hs => hs) (versioned_negotiate hanswer h)

theorem versioned_refreshStatus (h : provider.Versioned db) :
    (refreshStatus client provider).2.Versioned db :=
  refreshBy_invariant (I := Versioned db) (fun _ hs => hs) (fun _ _ hs => hs) h

theorem presentable_of_versioned (h : provider.Versioned db) :
    (contract db).Presentable provider := by
  intro v hv
  obtain ⟨identity, response, status, rfl, hdescriptor⟩ := offer_eq_some_iff.mp hv
  have hid : v.1.providerId = ZaryaReport.providerIdZarya := by
    rw [hdescriptor, ZaryaReport.mapToShyamProvider]
  have hversion : v.1.version = identity.version := by
    rw [hdescriptor, ZaryaReport.mapToShyamProvider, zaryaReport]
  rw [accepted_iff ⟨_, by rw [hid]; exact validProviderId db⟩, hversion]
  exact h identity rfl

end ZaryaProvider

namespace FluxProvider

variable {client : FluxClient} {provider : FluxProvider}

def Versioned (db : CharacterDatabase) (self : FluxProvider) : Prop :=
  ∀ identity, self.identity = some identity → ∃ v, validateVersion db identity.version = .ok v

theorem versioned_negotiate (hanswer : ∀ identity, client.getIdentity = .ok identity →
      ∃ v, validateVersion db identity.version = .ok v) (h : provider.Versioned db) :
    (after provider (negotiate client)).Versioned db := by
  refine inOrder_invariant (I := Versioned db) ?_ h
  simp only [List.forall_mem_cons, List.not_mem_nil, false_imp_iff, implies_true, and_true]
  refine ⟨fun s hs => ?_, fun s hs => ?_⟩
  · refine after_request (fun identity hidentity s _ => ?_) hs
    rw [after, cacheIdentity]
    split_ifs <;> rintro _ ⟨⟩ <;> exact hanswer identity hidentity
  · exact after_request (fun status _ s hs => hs) hs

theorem versioned_connect (hanswer : ∀ identity, client.getIdentity = .ok identity →
      ∃ v, validateVersion db identity.version = .ok v) (h : provider.Versioned db) :
    (connect client provider).2.Versioned db :=
  connectBy_invariant (I := Versioned db) (fun _ hs => hs) (versioned_negotiate hanswer h)

theorem versioned_refreshStatus (h : provider.Versioned db) :
    (refreshStatus client provider).2.Versioned db :=
  refreshBy_invariant (I := Versioned db) (fun _ hs => hs) (fun _ _ hs => hs) h

theorem presentable_of_versioned (h : provider.Versioned db) :
    (contract db).Presentable provider := by
  intro v hv
  obtain ⟨identity, status, rfl, hoffer⟩ := offer_eq_some_iff.mp hv
  have hid : v.1.providerId = FluxReport.providerIdFlux := by
    rw [hoffer, FluxReport.mapToShyamProvider]
  have hversion : v.1.version = identity.version := by
    rw [hoffer, FluxReport.mapToShyamProvider, fluxReport]
  rw [accepted_iff ⟨_, by rw [hid]; exact validProviderId db⟩, hversion]
  exact h identity rfl

end FluxProvider

/-! ### Calls of the providers -/

/-- Everything is answered, with this version. -/
def ZaryaClient.ofVersion (version : String) : ZaryaClient where
  getProtocol := .ok ⟨"eip-1.0", ["eip-1.0"]⟩
  getIdentity :=
    .ok { instanceId := "zarya-1", product := "Zarya", version := version, protocol := "eip-1.0",
                       platform := "linux", architecture := "x86_64" }
  getCapabilities := .ok { protocol := "eip-1.0", capabilities := [⟨"process.list", "1.0.0", ""⟩] }
  getStatus := .ok .ready

theorem ZaryaClient.reading_ofVersion (version : String) :
    ∃ v, (ZaryaClient.ofVersion version).reading .ascii = .ok v
      ∧ v.1.providerId = ZaryaReport.providerIdZarya
      ∧ v.1.version = version ∧ v.1.availability = .available :=
  ⟨_, rfl, rfl, rfl, rfl⟩

/-- A call of a provider, with what its gateway answers meanwhile. -/
inductive ProviderCall where
  | connectZarya (client : ZaryaClient)
  | refreshZarya (client : ZaryaClient)
  | connectFlux (client : FluxClient)
  | refreshFlux (client : FluxClient)

/-- The identity that is answered has a version that a provider may have. -/
def ProviderCall.Versioned (db : CharacterDatabase) : ProviderCall → Prop
  | .connectZarya client => ∀ identity, client.getIdentity = .ok identity →
      ∃ v, validateVersion db identity.version = .ok v
  | .connectFlux client => ∀ identity, client.getIdentity = .ok identity →
      ∃ v, validateVersion db identity.version = .ok v
  | .refreshZarya _ | .refreshFlux _ => True

namespace LocalSources

/-- The caller catches what `connect` raises. -/
def perform (db : CharacterDatabase) (self : LocalSources) : ProviderCall → LocalSources
  | .connectZarya client => { self with zarya := (ZaryaProvider.connect db client self.zarya).2 }
  | .refreshZarya client => { self with zarya := (ZaryaProvider.refreshStatus client self.zarya).2 }
  | .connectFlux client => { self with flux := (FluxProvider.connect client self.flux).2 }
  | .refreshFlux client => { self with flux := (FluxProvider.refreshStatus client self.flux).2 }

variable {sources : LocalSources} {identity : LocalIdentity} {now : DateTime}
  {answer : EcosystemDiscoveryService.GatewayAnswer} {registry : EcosystemRegistry}

/-- Both providers have cached nothing but good versions, and the registered
ones list nothing odd. -/
structure Versioned (db : CharacterDatabase) (sources : LocalSources) : Prop where
  registered : ∀ id prov, sources.registries.providers.get? id = some prov →
    sources.registries.Lists db prov
  zarya : sources.zarya.Versioned db
  flux : sources.flux.Versioned db

theorem Versioned.perform {call : ProviderCall} (h : sources.Versioned db)
    (hcall : call.Versioned db) :
    (sources.perform db call).Versioned db := by
  cases call with
  | connectZarya client =>
      exact ⟨h.registered, ZaryaProvider.versioned_connect hcall h.zarya, h.flux⟩
  | refreshZarya client =>
      exact ⟨h.registered, ZaryaProvider.versioned_refreshStatus h.zarya, h.flux⟩
  | connectFlux client => exact ⟨h.registered, h.zarya, FluxProvider.versioned_connect hcall h.flux⟩
  | refreshFlux client => exact ⟨h.registered, h.zarya, FluxProvider.versioned_refreshStatus h.flux⟩

theorem Versioned.presentable (h : sources.Versioned db) : sources.Presentable db where
  registered := h.registered
  zarya := ZaryaProvider.presentable_of_versioned h.zarya
  flux := FluxProvider.presentable_of_versioned h.flux

theorem versioned_run {calls : List ProviderCall} (h : sources.Versioned db)
    (hcalls : ∀ call ∈ calls, call.Versioned db) :
    (run (LocalSources.perform db) sources calls).Versioned db :=
  (along_of_forall_mem hcalls).invariant (fun _ _ hs hcall => hs.perform hcall) h

/-- A snapshot with the local node, available and with each registered provider in full. -/
def Discovers (db : CharacterDatabase) (self : LocalSources) (identity : LocalIdentity)
    (now : DateTime) (answer : EcosystemDiscoveryService.GatewayAnswer)
    (registry : EcosystemRegistry) : Prop :=
  ∃ snapshot registry', self.discover db identity now answer registry = .ok (snapshot, registry')
    ∧ ∃ node, snapshot.nodes.get? identity.nodeId = some node ∧ node.state = .available
      ∧ ∀ id prov, self.registries.providers.get? id = some prov → ∃ entry,
          node.providers.entries.get? id = some entry
            ∧ entry.capabilities.map DiscoveredCapability.capabilityId = prov.capabilities

theorem discovers_iff_presentable (hid : IsUuidText identity.nodeId) :
    sources.Discovers db identity now answer registry ↔ sources.Presentable db := by
  constructor
  · rintro ⟨snapshot, registry', hdiscover, -⟩
    exact (discover_eq_ok_iff.mp hdiscover).1
  · intro hpresentable
    refine ⟨_, _, discover_eq_ok_iff.mpr ⟨hpresentable, rfl⟩, _, getNode_discovered hid, rfl, ?_⟩
    intro id prov hprov
    exact ⟨_, get?_listed hprov db now,
      Registries.capabilityIds_discovered sources.registries now prov⟩

/-- **The discovery of the local node.** Whatever the gateways have answered, it succeeds exactly
when nothing that is cached or listed would be refused; and so it does when every identity has had a
good version. -/
theorem discovers_settles (db : CharacterDatabase) (identity : LocalIdentity)
    (hid : IsUuidText identity.nodeId) (registries : Registries) (calls : List ProviderCall)
    (now : DateTime)
    (answer : EcosystemDiscoveryService.GatewayAnswer) (registry : EcosystemRegistry) :
    ((run (perform db) { registries } calls).Discovers db identity now answer registry
        ↔ (run (perform db) { registries } calls).Presentable db)
      ∧ ((∀ id prov, registries.providers.get? id = some prov → registries.Lists db prov) →
          (∀ call ∈ calls, call.Versioned db) →
            (run (perform db) { registries } calls).Discovers db identity now answer registry) := by
  refine ⟨discovers_iff_presentable hid, fun hlists hcalls => ?_⟩
  have hversioned : LocalSources.Versioned db { registries } := by
    refine ⟨hlists, ?_, ?_⟩
    · rintro identity ⟨⟩
    · rintro identity ⟨⟩
  exact (discovers_iff_presentable hid).mpr (versioned_run hversioned hcalls).presentable

/-- The filesystem is registered, with its capabilities. -/
def filesystemRegistered : Registries :=
  (LocalFilesystemProvider.capabilityDefinitions.foldl Registries.registerCapability
    .empty).registerProvider
    LocalFilesystemProvider.descriptor

theorem lists_filesystemRegistered (id : String) (prov : Provider)
    (h : filesystemRegistered.providers.get? id = some prov) :
    filesystemRegistered.Lists .ascii prov := by
  have hregistered : ∀ cid ∈ LocalFilesystemProvider.descriptor.capabilities,
      (filesystemRegistered.capabilities.get? cid).isSome = true := by decide
  rw [filesystemRegistered, Registries.registerProvider, Dict.get?_set] at h
  split_ifs at h
  · cases h
    exact fun cid hcid => .inl (hregistered cid hcid)
  · cases h

theorem discovers_settles_connected :
    (run (perform .ascii) { registries := filesystemRegistered }
        [.connectZarya (.ofVersion "1.2.0")]).Discovers .ascii
          ⟨uuidText 1, "desk", "0.2.0"⟩ .epoch .disconnected
      .empty := by
  have hversioned : ∀ call ∈ [ProviderCall.connectZarya (.ofVersion "1.2.0")],
      call.Versioned .ascii := by
    simp only [List.forall_mem_singleton, ProviderCall.Versioned]
    rintro _ ⟨⟩
    exact ⟨"1.2.0", by decide⟩
  exact (discovers_settles .ascii ⟨uuidText 1, "desk", "0.2.0"⟩ ⟨1, rfl⟩ filesystemRegistered
    [.connectZarya (.ofVersion "1.2.0")] .epoch .disconnected .empty).2 lists_filesystemRegistered
      hversioned

/-- Zarya calls itself "1.0-beta": it is connected, and from then on the local node is not
discovered. -/
theorem not_discovers_beta :
    ¬(run (perform .ascii) {} [.connectZarya (.ofVersion "1.0-beta")]).Discovers .ascii
      ⟨uuidText 1, "desk", "0.2.0"⟩ .epoch .disconnected .empty := by
  rw [discovers_iff_presentable ⟨1, rfl⟩]
  intro hpresentable
  obtain ⟨v, hreading, hid, hversion, -⟩ := ZaryaClient.reading_ofVersion "1.0-beta"
  have hrefused := hpresentable.zarya v (ZaryaProvider.connect_of_reading_ok hreading).2
  rw [accepted_iff ⟨_, by rw [hid]; exact ZaryaProvider.validProviderId .ascii⟩,
    hversion] at hrefused
  obtain ⟨version, hversion⟩ := hrefused
  have herror : validateVersion .ascii "1.0-beta"
      = .error "Version parts must be non-negative integers, got: '1.0-beta'" := by
    decide
  rw [herror] at hversion
  cases hversion

end LocalSources

end Sovereign

end Shyam
