import Shyam.Core.Components
import Shyam.Navigation.Policy
import Shyam.Workflow.Executors

/-!
# What the local node offers

The local node lists the filesystem, Zarya and Flux. Only the filesystem is listed under ids that
the executors know: Zarya's executor is registered under another provider id, and that of Flux knows
other capability ids. So what the node offers can be executed exactly when nothing else can be
selected.
-/

namespace Shyam

open Python Transition Navigation

namespace LocalComponents

variable {title : String → String} {s : LocalComponents} {provider : Provider}

/-! ### What is registered -/

inductive Known : Provider → Prop
  | filesystem (availability : AvailabilityStatus) :
      Known { LocalFilesystemProvider.descriptor with availability }
  | zarya (report : ZaryaReport) : Known report.mapToShyamProvider
  | flux (report : FluxReport) : Known report.mapToShyamProvider

structure Consistent (s : LocalComponents) : Prop where
  known : ∀ id provider, s.providers.get? id = some provider →
    provider.providerId = id ∧ Known provider
  available : ∀ id cap, s.capabilities.get? id = some cap →
    cap.capabilityId = id ∧ cap.availability = .available
  zarya : s.zarya.isSome → (s.providers.get? ZaryaReport.providerIdZarya).isSome
  flux : s.flux.isSome → (s.providers.get? FluxReport.providerIdFlux).isSome

theorem isSome_get?_set {α : Type} {d : Dict α} {k id : String} (v : α) (h : (d.get? id).isSome) :
    ((d.set k v).get? id).isSome := by
  rw [Dict.get?_set]
  split_ifs
  · rfl
  · exact h

theorem Consistent.registerProvider (h : Consistent s) (hknown : Known provider) :
    Consistent (s.registerProvider provider) where
  known id p hp := by
    rw [LocalComponents.registerProvider, Dict.get?_set] at hp
    split_ifs at hp with hid
    · cases hp
      exact ⟨hid.symm, hknown⟩
    · exact h.known id p hp
  available := h.available
  zarya hz := isSome_get?_set provider (h.zarya hz)
  flux hf := isSome_get?_set provider (h.flux hf)

theorem Consistent.registerCapability (h : Consistent s) {cap : Capability}
    (hcap : cap.availability = .available) : Consistent (s.registerCapability cap) where
  known := h.known
  available id c hc := by
    rw [LocalComponents.registerCapability, Dict.get?_set] at hc
    split_ifs at hc with hid
    · cases hc
      exact ⟨hid.symm, hcap⟩
    · exact h.available id c hc
  zarya := h.zarya
  flux := h.flux

theorem Consistent.ensureCapability (h : Consistent s) {cap : Capability}
    (hcap : cap.availability = .available) : Consistent (s.ensureCapability cap) := by
  rw [LocalComponents.ensureCapability]
  split_ifs
  · exact h
  · exact h.registerCapability hcap

theorem Consistent.startFabric (h : Consistent s) (initialized : Bool) :
    Consistent (s.startFabric initialized) := by
  have hcaps : Consistent (LocalFilesystemProvider.capabilityDefinitions.foldl
      LocalComponents.ensureCapability s) :=
    ((h.ensureCapability rfl).ensureCapability rfl).ensureCapability rfl
  exact (hcaps.registerProvider (.filesystem .registered)).registerProvider
    (.filesystem (if initialized then .available else .unavailable))

theorem consistent_start (initialized : Bool) : Consistent (start initialized) := by
  apply Consistent.startFabric
  apply Consistent.registerCapability _ rfl
  exact ⟨by simp, by simp, by simp, by simp⟩

theorem availability_of_mem_flux (i : Fin FluxReport.capabilityDefinitions.length) :
    (FluxReport.capabilityDefinitions.get i).availability = .available := by
  revert i
  decide

theorem Consistent.connectZarya (h : Consistent s) (report : ZaryaReport) :
    Consistent ({ s with zarya := some report }.registerProvider report.mapToShyamProvider) where
  known := (h.registerProvider (.zarya report)).known
  available := h.available
  zarya _ := by
    rw [LocalComponents.registerProvider, Dict.get?_set]
    exact congrArg Option.isSome (if_pos rfl)
  flux := (h.registerProvider (.zarya report)).flux

theorem Consistent.connectFlux (h : Consistent s) (report : FluxReport) :
    Consistent ({ s with flux := some report }.registerProvider report.mapToShyamProvider) where
  known := (h.registerProvider (.flux report)).known
  available := h.available
  zarya := (h.registerProvider (.flux report)).zarya
  flux _ := by
    rw [LocalComponents.registerProvider, Dict.get?_set]
    exact congrArg Option.isSome (if_pos rfl)

theorem Consistent.step (h : Consistent s) (action : ComponentAction) :
    Consistent (step title s action) := by
  cases action with
  | zaryaConnected report => exact h.connectZarya report
  | zaryaCapability entry => exact h.registerCapability rfl
  | zaryaStatus status =>
      refine ⟨h.known, h.available, fun hz => h.zarya ?_, h.flux⟩
      rwa [LocalComponents.step, Option.isSome_map] at hz
  | zaryaReady =>
      rw [LocalComponents.step]
      split
      · exact h.registerProvider (.zarya _)
      · exact h
  | zaryaLost =>
      exact ⟨h.known, h.available, fun hz => absurd hz (by simp [LocalComponents.step]), h.flux⟩
  | fluxConnected report => exact h.connectFlux report
  | fluxCapability i => exact h.registerCapability (availability_of_mem_flux i)
  | fluxStatus state discoveredPeerCount activePathCount =>
      refine ⟨h.known, h.available, h.zarya, fun hf => h.flux ?_⟩
      rwa [LocalComponents.step, Option.isSome_map] at hf
  | fluxReady =>
      rw [LocalComponents.step]
      split
      · exact h.registerProvider (.flux _)
      · exact h
  | fluxLost =>
      exact ⟨h.known, h.available, h.zarya, fun hf => absurd hf (by simp [LocalComponents.step])⟩

theorem consistent_run (initialized : Bool) (actions : List ComponentAction) :
    Consistent (run (step title) (start initialized) actions) :=
  run_of_invariant (fun _ action h => h.step action) actions (consistent_start initialized)

/-! ### What the local node lists -/

def discovered (title : String → String) (s : LocalComponents) (now : DateTime)
    (provider : Provider) :
    DiscoveredProvider :=
  .fromProvider provider
    (provider.capabilities.map
      (EcosystemDiscoveryService.capabilityModel (s.fabric title) provider)) now

theorem get?_foldl_put {l : List (String × Provider)} (hnodup : (l.map Prod.fst).Nodup)
    (hkeyed : ∀ e ∈ l, e.2.providerId = e.1) {f : Provider → DiscoveredProvider}
    (hf : ∀ provider, (f provider).providerId = provider.providerId)
    (acc : ProviderMap) (id : String) :
    ((l.map Prod.snd).foldl (fun m provider => m.put (f provider)) acc).entries.get? id
      = ((l.lookup id).map f).or (acc.entries.get? id) := by
  induction l generalizing acc with
  | nil => rfl
  | cons e l ih =>
      rw [List.map_cons, List.nodup_cons] at hnodup
      have hid : (f e.2).providerId = e.1 := (hf e.2).trans (hkeyed e List.mem_cons_self)
      rw [List.map_cons, List.foldl_cons,
        ih hnodup.2 fun e' he' => hkeyed e' (List.mem_cons_of_mem e he'), ProviderMap.put,
        Dict.get?_set, hid, Dict.lookup_cons_eq]
      by_cases he : id = e.1
      · have hnone : l.lookup id = none := Dict.lookup_eq_none_iff.mpr (he ▸ hnodup.1)
        rw [if_pos he, if_pos he, hnone]
        rfl
      · rw [if_neg he, if_neg he]

def listed (title : String → String) (s : LocalComponents) (now : DateTime) : ProviderMap :=
  (s.providers.entries.map Prod.snd).foldl (fun m provider =>
    m.put (discovered title s now provider))
    ProviderMap.empty

theorem Consistent.get?_listed (h : Consistent s) (now : DateTime) (id : String) :
    (listed title s now).entries.get? id = (s.providers.get? id).map (discovered title s now) := by
  have hkeyed : ∀ e ∈ s.providers.entries, e.2.providerId = e.1 := fun e he =>
    (h.known e.1 e.2 (Dict.get?_eq_some_iff.mpr he)).1
  rw [listed, get?_foldl_put s.providers.nodup hkeyed (fun _ => rfl)]
  exact Option.or_none

theorem putMissing_eq_self {m : ProviderMap} {p : DiscoveredProvider}
    (h : (m.entries.get? p.providerId).isSome) : m.putMissing p = m := if_pos h

/-- Zarya and Flux are registered by the time they are connected. -/
theorem Consistent.localProviders_eq (h : Consistent s) (now : DateTime) :
    EcosystemDiscoveryService.localProviders now (s.fabric title) = listed title s now := by
  have hzarya (report : ZaryaReport) (caps : List Capability) (hz : s.zarya.isSome) :
      (listed title s now).putMissing (.fromProvider report.mapToShyamProvider caps now)
        = listed title s now := by
    apply putMissing_eq_self
    rw [h.get?_listed, Option.isSome_map]
    exact h.zarya hz
  have hflux (report : FluxReport) (caps : List Capability) (hf : s.flux.isSome) :
      (listed title s now).putMissing (.fromProvider report.mapToShyamProvider caps now)
        = listed title s now := by
    apply putMissing_eq_self
    rw [h.get?_listed, Option.isSome_map]
    exact h.flux hf
  cases hz : s.zarya <;> cases hf : s.flux <;>
    simp only [EcosystemDiscoveryService.localProviders, fabric, hz, hf,
      Option.map_some, Option.map_none]
  · rfl
  · exact hflux _ _ (by rw [hf, Option.isSome_some])
  · exact hzarya _ _ (by rw [hz, Option.isSome_some])
  · rename_i report report'
    have hskip :=
      hzarya report (report.capabilities.map (ZaryaReport.mapCapabilityEntryToCapability title))
      (by rw [hz, Option.isSome_some])
    have hskip' := hflux report' FluxReport.capabilityDefinitions (by rw [hf, Option.isSome_some])
    rw [← hskip] at hskip'
    exact hskip'.trans hskip

/-- A provider that the local node lists. -/
theorem Consistent.get?_localProviders (h : Consistent s) (now : DateTime) (id : String) :
    (EcosystemDiscoveryService.localProviders now (s.fabric title)).entries.get? id
      = (s.providers.get? id).map (discovered title s now) := by
  rw [h.localProviders_eq, h.get?_listed]

theorem discovered_capabilities (now : DateTime) (provider : Provider) :
    (discovered title s now provider).capabilities
      = provider.capabilities.map fun cid =>
          .fromCapability
            (EcosystemDiscoveryService.capabilityModel (s.fabric title) provider cid) := by
  rw [discovered, DiscoveredProvider.fromProvider]
  dsimp only
  split_ifs with hnone
  · rw [List.map_eq_nil_iff] at hnone
    rw [hnone]
    rfl
  · rw [List.map_map]
    rfl

theorem Consistent.capabilityId_capabilityModel (h : Consistent s)
    (provider : Provider) (cid : String) :
    (EcosystemDiscoveryService.capabilityModel (s.fabric title) provider cid).capabilityId
      = cid := by
  rw [EcosystemDiscoveryService.capabilityModel]
  change ((s.capabilities.get? cid).getD _).capabilityId = cid
  cases hcap : s.capabilities.get? cid with
  | none => rfl
  | some cap => exact (h.available cid cap hcap).1

theorem Consistent.availability_capabilityModel (h : Consistent s) (title : String → String)
    {provider : Provider} (hup : provider.availability ≠ .unavailable) (cid : String) :
    (EcosystemDiscoveryService.capabilityModel (s.fabric title) provider cid).availability
      ≠ .unavailable := by
  rw [EcosystemDiscoveryService.capabilityModel]
  change ((s.capabilities.get? cid).getD _).availability ≠ .unavailable
  cases hcap : s.capabilities.get? cid with
  | none => exact hup
  | some cap =>
      rw [Option.getD_some, (h.available cid cap hcap).2]
      decide

/-! ### Candidates on the local node -/

variable {self : LocalIdentity} {now : DateTime} {registry : EcosystemRegistry}
  {capability : String} {c : Candidate}

/-- The ecosystem after the local node was discovered. -/
def ecosystem (title : String → String) (s : LocalComponents) (self : LocalIdentity)
    (now : DateTime) (registry : EcosystemRegistry) : EcosystemSnapshot :=
  (EcosystemDiscoveryService.discoverLocalNode self now (s.fabric title) registry).createSnapshot
    self.nodeId

theorem Consistent.mem_candidates (h : Consistent s)
    (hc : c ∈ discoverCandidates (s.ecosystem title self now registry) capability)
    (hlocal : c.nodeId = self.nodeId) :
    ∃ provider, s.providers.get? c.providerId = some provider ∧ capability ∈ provider.capabilities
      ∧ c.capabilityId = capability ∧ c.providerStatus = provider.availability := by
  obtain ⟨node, provider', cap, hnode, hprovider, hcap, hid, rfl⟩ := mem_discoverCandidates.mp hc
  have hself : node = EcosystemDiscoveryService.localNode self now (s.fabric title) registry := by
    rw [EcosystemDiscoveryService.discoverLocalNode,
      EcosystemRegistry.getNode_registerNode] at hnode
    exact (Option.some.inj ((if_pos hlocal).symm.trans hnode)).symm
  rw [hself] at hprovider
  change (EcosystemDiscoveryService.localProviders now (s.fabric title)).entries.get?
    provider'.providerId = some provider' at hprovider
  rw [h.get?_localProviders, Option.map_eq_some_iff] at hprovider
  obtain ⟨provider, hprovider, rfl⟩ := hprovider
  refine ⟨provider, hprovider, ?_, hid, rfl⟩
  rw [discovered_capabilities, List.mem_map] at hcap
  obtain ⟨cid, hcid, rfl⟩ := hcap
  have hsame : cid = capability := (h.capabilityId_capabilityModel provider cid).symm.trans hid
  exact hsame ▸ hcid

/-- What the local node lists can be selected there, unless its provider is unavailable. -/
theorem Consistent.exists_local (h : Consistent s) (title : String → String) (self : LocalIdentity)
    (now : DateTime) {provider : Provider}
    (hprovider : s.providers.get? provider.providerId = some provider)
    (hup : provider.availability ≠ .unavailable) (hcap : capability ∈ provider.capabilities) :
    ∃ c, (navigate ⟨capability, { localOnly := true }⟩ (s.ecosystem title self now .empty)).selected
      = some c
      ∧ c ∈ discoverCandidates (s.ecosystem title self now .empty) capability
      ∧ c.nodeId = self.nodeId := by
  have hmodel := h.availability_capabilityModel title hup capability
  have hcandidate : Candidate.of
    (EcosystemDiscoveryService.localNode self now (s.fabric title) .empty)
      (discovered title s now provider)
      (.fromCapability
        (EcosystemDiscoveryService.capabilityModel (s.fabric title) provider capability))
        ∈ eligible { localOnly := true }
          (discoverCandidates (s.ecosystem title self now .empty) capability) := by
    rw [mem_eligible]
    refine ⟨mem_discoverCandidates.mpr ⟨_, _, _, ?_, ?_, ?_,
      h.capabilityId_capabilityModel _ _, rfl⟩, ?_⟩
    · exact (EcosystemRegistry.getNode_registerNode _ _ _).trans (if_pos rfl)
    · exact (h.get?_localProviders now provider.providerId).trans
        (congrArg (Option.map _) hprovider)
    · rw [discovered_capabilities]
      exact List.mem_map_of_mem hcap
    · simp [rejection, rejection.rejectedStatus, Candidate.of, discovered,
        DiscoveredProvider.fromProvider, EcosystemDiscoveryService.localNode,
        DiscoveredCapability.fromCapability, hup, hmodel]
  obtain ⟨c, hselected⟩ := exists_selected capability hcandidate
  have hmem := (mem_eligible.mp (rankedFirst_of_selected hselected).1).1
  refine ⟨c, hselected, hmem, ?_⟩
  obtain ⟨node, provider', cap, hnode, -, -, -, rfl⟩ := mem_discoverCandidates.mp hmem
  rw [EcosystemDiscoveryService.discoverLocalNode, EcosystemRegistry.getNode_registerNode] at hnode
  split_ifs at hnode with hid
  · exact hid
  · cases hnode

/-! ### Dispatch -/

def Dispatchable (c : Candidate) : Prop :=
  ∃ operation, ExecutorRegistry.dispatch ExecutorRegistry.registered c = .ok operation

/-- Every step that navigation sends to the local node comes to an operation of the provider. -/
def LocallyDispatchable (title : String → String) (s : LocalComponents)
    (self : LocalIdentity) : Prop :=
  ∀ registry now request c, (navigate request (s.ecosystem title self now registry)).selected
    = some c →
    c.nodeId = self.nodeId → Dispatchable c

/-- Nothing of Zarya and nothing of Flux can be selected. -/
structure OnlyFiles (s : LocalComponents) : Prop where
  zarya : ∀ provider, s.providers.get? ZaryaReport.providerIdZarya = some provider →
    provider.availability = .unavailable ∨ provider.capabilities = []
  flux : ∀ provider, s.providers.get? FluxReport.providerIdFlux = some provider →
    provider.availability = .unavailable

theorem ids_of_known (hknown : Known provider) :
    (provider.providerId = "local.filesystem"
        ∧ provider.capabilities = ["file.read", "file.write", "file.list"])
      ∨ (provider.providerId = ZaryaReport.providerIdZarya
        ∧ ∀ cap ∈ provider.capabilities, ∃ id, cap = "zarya." ++ id)
      ∨ (provider.providerId = FluxReport.providerIdFlux
        ∧ provider.capabilities
          = FluxReport.capabilityDefinitions.map Capability.capabilityId) := by
  cases hknown with
  | filesystem availability =>
      exact Or.inl ⟨rfl, show LocalFilesystemProvider.descriptor.capabilities = _ by decide⟩
  | zarya report =>
      refine Or.inr (Or.inl ⟨rfl, fun cap hcap => ?_⟩)
      obtain ⟨entry, -, rfl⟩ := List.mem_map.mp hcap
      exact ⟨entry.id, rfl⟩
  | flux report => exact Or.inr (Or.inr ⟨rfl, rfl⟩)

/-- The first letter of a capability id tells whose it is. -/
theorem first_of_known {cap : String} (hknown : Known provider)
    (hcap : cap ∈ provider.capabilities) :
    (provider.providerId = "local.filesystem" ∧ cap.toList.head? = some 'f')
      ∨ (provider.providerId = ZaryaReport.providerIdZarya ∧ cap.toList.head? = some 'z')
      ∨ (provider.providerId = FluxReport.providerIdFlux ∧ cap.toList.head? = some 'c') := by
  rcases ids_of_known hknown with ⟨hid, hcaps⟩ | ⟨hid, hcaps⟩ | ⟨hid, hcaps⟩
  · rw [hcaps] at hcap
    have hfirst : ∀ cap ∈ ["file.read", "file.write", "file.list"],
        cap.toList.head? = some 'f' := by
      decide
    exact Or.inl ⟨hid, hfirst cap hcap⟩
  · obtain ⟨id, rfl⟩ := hcaps cap hcap
    exact Or.inr (Or.inl ⟨hid, by rw [String.toList_append]; rfl⟩)
  · rw [hcaps] at hcap
    have hfirst : ∀ cap ∈ FluxReport.capabilityDefinitions.map Capability.capabilityId,
        cap.toList.head? = some 'c' := by
      decide
    exact Or.inr (Or.inr ⟨hid, hfirst cap hcap⟩)

theorem providerId_eq_of_known {provider' : Provider} {cap : String} (hknown : Known provider)
    (hknown' : Known provider') (hcap : cap ∈ provider.capabilities)
    (hcap' : cap ∈ provider'.capabilities) :
    provider.providerId = provider'.providerId := by
  rcases first_of_known hknown hcap with ⟨hid, hfirst⟩ | ⟨hid, hfirst⟩ | ⟨hid, hfirst⟩ <;>
    rcases first_of_known hknown' hcap' with ⟨hid', hfirst'⟩ | ⟨hid', hfirst'⟩ | ⟨hid', hfirst'⟩ <;>
    first
    | exact hid.trans hid'.symm
    | exact absurd (hfirst.symm.trans hfirst') (by decide)

theorem dispatch_eq {executor : CapabilityExecutor}
    (hexecutor : ExecutorRegistry.registered.get? c.providerId = some executor) :
    ExecutorRegistry.dispatch ExecutorRegistry.registered c
      = executor.operation c.capabilityId := by
  rw [ExecutorRegistry.dispatch, ExecutorRegistry.get, hexecutor]
  rfl

theorem dispatchable_of_file (hid : c.providerId = "local.filesystem")
    (hcap : c.capabilityId ∈ ["file.read", "file.write", "file.list"]) : Dispatchable c := by
  have hexecutor : ExecutorRegistry.registered.get? c.providerId = some .localFilesystem := by
    rw [hid]
    decide
  rw [Dispatchable, dispatch_eq hexecutor, CapabilityExecutor.operation]
  simp only [List.mem_cons, List.not_mem_nil, or_false] at hcap
  rcases hcap with hcap | hcap | hcap
  · exact ⟨.readFile, by rw [hcap]; decide⟩
  · exact ⟨.writeFile, by rw [hcap]; decide⟩
  · exact ⟨.listDir, by rw [hcap]; decide⟩

/-- Zarya's executor is registered as `zarya.sovereign`. -/
theorem not_dispatchable_of_zarya
    (hid : c.providerId = ZaryaReport.providerIdZarya) : ¬Dispatchable c := by
  have hexecutor : ExecutorRegistry.registered.get? c.providerId = none := by
    rw [hid]
    decide
  rw [Dispatchable, ExecutorRegistry.dispatch, ExecutorRegistry.get, hexecutor]
  intro h
  obtain ⟨operation, h⟩ := h
  cases h

theorem fluxOperation_eq_error {cap : String}
    (hcap : cap ∈ FluxReport.capabilityDefinitions.map Capability.capabilityId) :
    CapabilityExecutor.fluxOperation cap
      = .error (stepExecutionError cap ("Unsupported Flux capability: '" ++ cap ++ "'")) := by
  revert cap
  decide

theorem not_dispatchable_of_flux (hid : c.providerId = FluxReport.providerIdFlux)
    (hcap : c.capabilityId ∈ FluxReport.capabilityDefinitions.map Capability.capabilityId) :
    ¬Dispatchable c := by
  have hexecutor : ExecutorRegistry.registered.get? c.providerId = some .flux := by
    rw [hid]
    decide
  rw [Dispatchable, dispatch_eq hexecutor, CapabilityExecutor.operation,
    fluxOperation_eq_error hcap]
  intro h
  obtain ⟨operation, h⟩ := h
  cases h

/-! ### When everything is dispatchable -/

theorem Consistent.dispatchable_of_onlyFiles (h : Consistent s) (honly : OnlyFiles s) :
    LocallyDispatchable title s self := by
  intro registry now request c hselected hlocal
  have hmem := mem_eligible.mp (rankedFirst_of_selected hselected).1
  obtain ⟨provider, hprovider, hcap, hid, hstatus⟩ := h.mem_candidates hmem.1 hlocal
  have hup : provider.availability ≠ .unavailable := by
    intro hdown
    have hrejected := hmem.2
    rw [hdown] at hstatus
    rw [rejection] at hrejected
    split_ifs at hrejected
  obtain ⟨hproviderId, hknown⟩ := h.known c.providerId provider hprovider
  rcases ids_of_known hknown with ⟨hfile, hcaps⟩ | ⟨hzarya, -⟩ | ⟨hflux, -⟩
  · exact dispatchable_of_file (hproviderId ▸ hfile) (by rw [hid, ← hcaps]; exact hcap)
  · rw [← hproviderId, hzarya] at hprovider
    rcases honly.zarya provider hprovider with hdown | hnone
    · exact absurd hdown hup
    · rw [hnone] at hcap
      cases hcap
  · rw [← hproviderId, hflux] at hprovider
    exact absurd (honly.flux provider hprovider) hup

/-- What the node lists under an id is dispatched under this id. -/
theorem Consistent.exists_dispatched (h : Consistent s) (hall : LocallyDispatchable title s self)
    {provider : Provider} (hprovider : s.providers.get? provider.providerId = some provider)
    (hup : provider.availability ≠ .unavailable) (hcap : capability ∈ provider.capabilities) :
    ∃ c, c.providerId = provider.providerId ∧ c.capabilityId = capability ∧ Dispatchable c := by
  obtain ⟨c, hselected, hmem, hlocal⟩ := h.exists_local title self .epoch hprovider hup hcap
  obtain ⟨provider', hprovider', hcap', hid, -⟩ := h.mem_candidates hmem hlocal
  obtain ⟨hid', hknown'⟩ := h.known c.providerId provider' hprovider'
  have hsame :=
    providerId_eq_of_known hknown' (h.known provider.providerId provider hprovider).2 hcap' hcap
  exact ⟨c, hid'.symm.trans hsame, hid, hall .empty .epoch _ c hselected hlocal⟩

theorem Consistent.onlyFiles_of_dispatchable (h : Consistent s)
    (hall : LocallyDispatchable title s self) : OnlyFiles s where
  zarya provider hprovider := by
    have hid := (h.known _ provider hprovider).1
    by_contra hoffers
    rw [not_or] at hoffers
    obtain ⟨cap, hcap⟩ := List.exists_mem_of_ne_nil provider.capabilities hoffers.2
    obtain ⟨c, hcid, -, hc⟩ := h.exists_dispatched hall (hid.symm ▸ hprovider) hoffers.1 hcap
    exact not_dispatchable_of_zarya (hcid.trans hid) hc
  flux provider hprovider := by
    obtain ⟨hid, hknown⟩ := h.known _ provider hprovider
    by_contra hup
    have hcaps : provider.capabilities
        = FluxReport.capabilityDefinitions.map Capability.capabilityId := by
      rcases ids_of_known hknown with ⟨hother, -⟩ | ⟨hother, -⟩ | ⟨-, hcaps⟩
      · exact absurd (hid.symm.trans hother) (by decide)
      · exact absurd (hid.symm.trans hother) (by decide)
      · exact hcaps
    have hcap : "connectivity.session" ∈ provider.capabilities := by
      rw [hcaps]
      decide
    obtain ⟨c, hcid, hccap, hc⟩ := h.exists_dispatched hall (hid.symm ▸ hprovider) hup hcap
    exact not_dispatchable_of_flux (hcid.trans hid) (hccap ▸ hcaps ▸ hcap) hc

/-- **Dispatch.** However Zarya and Flux came and went, every step that navigation sends to the
local node comes to an operation of the provider, if and only if nothing of Zarya and nothing of
Flux can be selected there. -/
theorem locallyDispatchable_iff (title : String → String) (self : LocalIdentity)
    (initialized : Bool) (actions : List ComponentAction) :
    LocallyDispatchable title (run (step title) (start initialized) actions) self
      ↔ OnlyFiles (run (step title) (start initialized) actions) :=
  have h := consistent_run initialized actions
  ⟨h.onlyFiles_of_dispatchable, h.dispatchable_of_onlyFiles⟩

/-! ### Zarya connects -/

def workReport : ZaryaReport where
  instanceId := "zarya-instance"
  product := "zarya"
  version := "1.0.0"
  protocol := "eip-1.0"
  platform := "linux"
  architecture := "x86_64"
  capabilities := [{ id := "work.execute", version := "1.0.0" }]
  status := .ready

def workComponents : LocalComponents :=
  run (step id) (start true)
    [.zaryaConnected workReport, .zaryaCapability { id := "work.execute", version := "1.0.0" }]

def deskIdentity : LocalIdentity where
  nodeId := "2f6c1d52-8d57-4d53-a7b6-0a3c0d6f7a11"
  nodeName := "desk"

/-- The work of Zarya is listed and selected on the local node, and no executor is found. -/
theorem zarya_work_not_dispatched :
    ∃ c, (navigate ⟨"zarya.work.execute", { localOnly := true }⟩
        (workComponents.ecosystem id deskIdentity .epoch .empty)).selected = some c
      ∧ c.nodeId = deskIdentity.nodeId
      ∧ ExecutorRegistry.dispatch ExecutorRegistry.registered c
        = .error ⟨"ExecutorNotFoundError",
          "No CapabilityExecutor registered for provider 'zarya.agent'."⟩ := by
  have h : Consistent workComponents := consistent_run true _
  have hprovider : workComponents.providers.get? "zarya.agent"
      = some workReport.mapToShyamProvider := by
    change ((start true).providers.set "zarya.agent" workReport.mapToShyamProvider).get?
      "zarya.agent" = _
    rw [Dict.get?_set, if_pos rfl]
  have hcap : "zarya.work.execute" ∈ workReport.mapToShyamProvider.capabilities :=
    List.mem_singleton.mpr rfl
  have hup : workReport.mapToShyamProvider.availability ≠ .unavailable := by
    decide
  obtain ⟨c, hselected, hmem, hlocal⟩ := h.exists_local id deskIdentity .epoch hprovider hup hcap
  obtain ⟨provider', hprovider', hcap', -, -⟩ := h.mem_candidates hmem hlocal
  obtain ⟨hid, hknown⟩ := h.known c.providerId provider' hprovider'
  have hagent : c.providerId = "zarya.agent" :=
    hid.symm.trans (providerId_eq_of_known hknown (.zarya workReport) hcap' hcap)
  refine ⟨c, hselected, hlocal, ?_⟩
  rw [ExecutorRegistry.dispatch, ExecutorRegistry.get, hagent]
  rfl

end LocalComponents

end Shyam
