import Shyam.Core.Start
import Shyam.Navigation.Policy
import Shyam.Proof.Evaluations
import Shyam.Proof.LifecycleRuns
import Shyam.Proof.LocalNode

/-!
# The start of the local node

Where the node itself comes up, the start succeeds exactly when each enabled gateway is welcome:
what it offers is accepted, or it cannot be reached and offers nothing that is refused in the first
round of the tracker.
-/

namespace Shyam

open Python Fallible Transition Navigation

namespace Sovereign

variable {db : CharacterDatabase}

/-! ### Sound registries -/

namespace Registries

variable {registries : Registries} {v : Offer}

/-- What is listed is registered, and what is registered is available. -/
structure Sound (registries : Registries) : Prop where
  complete : ∀ id prov, registries.providers.get? id = some prov →
    ∀ cid ∈ prov.capabilities, (registries.capabilities.get? cid).isSome
  available : ∀ id cap, registries.capabilities.get? id = some cap → cap.availability = .available

/-- Whatever is registered is available. -/
def AllAvailable (registries : Registries) : Prop :=
  ∀ id cap, registries.capabilities.get? id = some cap → cap.availability = .available

theorem AllAvailable.registerCapability {cap : Capability} (h : registries.AllAvailable)
    (hcap : cap.availability = .available) : (registries.registerCapability cap).AllAvailable := by
  intro id cap' hget
  rw [Registries.registerCapability, Dict.get?_set] at hget
  split_ifs at hget
  · cases hget
    exact hcap
  · exact h id cap' hget

theorem AllAvailable.ensureCapability {cap : Capability} (h : registries.AllAvailable)
    (hcap : cap.availability = .available) : (registries.ensureCapability cap).AllAvailable := by
  rw [Registries.ensureCapability]
  split_ifs
  · exact h
  · exact h.registerCapability hcap

theorem AllAvailable.foldl {register : Registries → Capability → Registries}
    {caps : List Capability}
    (hregister : ∀ registries cap, registries.AllAvailable → cap.availability = .available →
      (register registries cap).AllAvailable)
    (hcaps : ∀ cap ∈ caps, cap.availability = .available) (h : registries.AllAvailable) :
    (caps.foldl register registries).AllAvailable := by
  induction caps generalizing registries with
  | nil => exact h
  | cons cap caps ih =>
      rw [List.forall_mem_cons] at hcaps
      exact ih hcaps.2 (hregister registries cap h hcaps.1)

theorem Sound.enlist {id : String} (h : registries.Sound) (hgenuine : Genuine id v) :
    (registries.enlist v).Sound where
  complete id' prov hprov cid hcid := by
    rw [get?_providers_enlist] at hprov
    apply isSome_get?_foldl isSome_get?_registerCapability
    split_ifs at hprov
    · cases hprov
      rw [hgenuine.capabilities]
      exact .inr hcid
    · exact .inl (h.complete id' prov hprov cid hcid)
  available := AllAvailable.foldl (fun _ _ h => h.registerCapability) hgenuine.available h.available

theorem Sound.admits {id : String} {registries' : Registries} (h : registries.Sound)
    (hadmits : Admits id registries registries') : registries'.Sound := by
  obtain rfl | ⟨v, hgenuine, rfl⟩ := hadmits
  · exact h
  · exact h.enlist hgenuine

theorem Sound.lists (h : registries.Sound) (db : CharacterDatabase) (id : String) (prov : Provider)
    (hprov : registries.providers.get? id = some prov) : registries.Lists db prov :=
  fun cid hcid => .inl (h.complete id prov hprov cid hcid)

/-! ### The filesystem -/

theorem isSome_get?_ensureCapability {id : String} (registries : Registries) (cap : Capability)
    (h : (registries.capabilities.get? id).isSome ∨ id = cap.capabilityId) :
    ((registries.ensureCapability cap).capabilities.get? id).isSome := by
  rw [ensureCapability]
  split_ifs with hpresent
  · rcases h with h | rfl
    · exact h
    · exact hpresent
  · exact isSome_get?_registerCapability registries cap h

/-- The descriptor of the filesystem after its start. -/
def filesystem (initialized : Bool) : Provider :=
  { LocalFilesystemProvider.descriptor with
    availability := if initialized then .available else .unavailable }

theorem providers_foldl_ensureCapability (registries : Registries) (caps : List Capability) :
    (caps.foldl ensureCapability registries).providers = registries.providers := by
  induction caps generalizing registries with
  | nil => rfl
  | cons cap caps ih =>
      have hcap : (registries.ensureCapability cap).providers = registries.providers := by
        rw [ensureCapability]
        split_ifs
        · rfl
        · rfl
      exact (ih _).trans hcap

theorem capabilities_startFabric (registries : Registries) (initialized : Bool) :
    (registries.startFabric initialized).capabilities
      = (LocalFilesystemProvider.capabilityDefinitions.foldl ensureCapability
        registries).capabilities := by
  rw [startFabric]
  generalize LocalFilesystemProvider.capabilityDefinitions.foldl ensureCapability registries
    = ensured
  rfl

theorem get?_startFabric (registries : Registries) (initialized : Bool) (id : String) :
    (registries.startFabric initialized).providers.get? id
      = if id = "local.filesystem" then some (filesystem initialized)
        else registries.providers.get? id := by
  have hproviders : (registries.startFabric initialized).providers
      = (registries.providers.set "local.filesystem" LocalFilesystemProvider.descriptor).set
        "local.filesystem"
          (filesystem initialized) := by
    rw [← providers_foldl_ensureCapability registries LocalFilesystemProvider.capabilityDefinitions,
      startFabric]
    generalize LocalFilesystemProvider.capabilityDefinitions.foldl ensureCapability registries
      = ensured
    rfl
  rw [hproviders, Dict.get?_set, Dict.get?_set]
  by_cases hid : id = "local.filesystem"
  · rw [if_pos hid, if_pos hid]
  · rw [if_neg hid, if_neg hid, if_neg hid]

theorem sound_startFabric {registries : Registries} (hnone : registries.providers = ∅)
    (havailable : registries.AllAvailable) (initialized : Bool) :
    (registries.startFabric initialized).Sound where
  complete id prov hprov cid hcid := by
    rw [get?_startFabric, hnone, Dict.get?_empty] at hprov
    split_ifs at hprov
    cases hprov
    rw [capabilities_startFabric]
    exact isSome_get?_foldl isSome_get?_ensureCapability (.inr hcid)
  available := by
    rw [capabilities_startFabric]
    exact AllAvailable.foldl (fun _ _ h => h.ensureCapability) (by decide) havailable

/-! ### The components behind the registries -/

/-- The same two registries, where no component has connected. -/
def components (registries : Registries) : LocalComponents :=
  { providers := registries.providers, capabilities := registries.capabilities }

theorem components_ensureCapability (registries : Registries) (cap : Capability) :
    (registries.ensureCapability cap).components = registries.components.ensureCapability cap := by
  have hcapabilities : registries.components.capabilities = registries.capabilities := rfl
  rw [ensureCapability, LocalComponents.ensureCapability, hcapabilities]
  split_ifs
  · rfl
  · rfl

theorem components_foldl_ensureCapability (registries : Registries) (caps : List Capability) :
    (caps.foldl ensureCapability registries).components
      = caps.foldl LocalComponents.ensureCapability registries.components := by
  induction caps generalizing registries with
  | nil => rfl
  | cons cap caps ih => rw [List.foldl_cons, List.foldl_cons, ih, components_ensureCapability]

theorem components_startFabric (registries : Registries) (initialized : Bool) :
    (registries.startFabric initialized).components
      = registries.components.startFabric initialized := by
  rw [startFabric, LocalComponents.startFabric, ← components_foldl_ensureCapability]
  generalize LocalFilesystemProvider.capabilityDefinitions.foldl ensureCapability registries
    = ensured
  rfl

end Registries

/-! ### The integration of a component -/

namespace Contract

variable {σ γ : Type} {component : Component σ γ} (contract : Contract db component) {client : γ}
  {provider : σ} {registries : Registries} {v : Offer} {tracked : Tracked σ}

/-- What is connected is registered, and would be described again. -/
structure Integrated (provider : σ) (registries : Registries) : Prop where
  settled : contract.Settled provider
  presentable : contract.Presentable provider
  listed : ∀ v, contract.offer provider = some v →
    (registries.providers.get? component.providerId).isSome

theorem integrated_of_disconnected (h : component.isConnected provider = false)
    (registries : Registries) :
    contract.Integrated provider registries := by
  refine ⟨contract.settled_of_disconnected h, fun v hv => ?_, fun v hv => ?_⟩ <;>
    · rw [contract.offer_eq_none h] at hv
      cases hv

theorem integrated_enlist (hoffer : contract.offer provider = some v)
    (hgenuine : Genuine component.providerId v) (haccepted : Accepted db v.1) :
    contract.Integrated provider (registries.enlist v) := by
  refine ⟨contract.settled_of_offer hoffer hgenuine, fun w hw => ?_, fun w hw => ?_⟩
  · rw [hoffer] at hw
    cases hw
    exact haccepted
  · rw [Registries.get?_providers_enlist, hgenuine.providerId, if_pos rfl]
    rfl

/-- What a gateway may answer to `connect` in the start. -/
def Integrable (client : γ) : Prop :=
  match contract.reading client with
  | .ok v => Accepted db v.1
  | .error fault => fault.isOf contract.keeps = true

theorem integrate_eq_ok_iff (hdown : component.isConnected provider = false)
    (registries : Registries) :
    (NodeComponents.integrate component client (provider, registries)).1 = .ok ()
      ↔ contract.Integrable client := by
  rw [Integrable, NodeComponents.integrate]
  rcases hconnect : component.connect client provider with ⟨outcome, provider'⟩
  cases hreading : contract.reading client with
  | ok v =>
      obtain ⟨houtcome, hoffer⟩ := contract.connect_of_reading_ok (s := provider) hreading
      rw [hconnect] at houtcome hoffer
      cases houtcome
      dsimp only
      by_cases haccepted : Accepted db v.1
      · rw [contract.register_of_accepted hoffer haccepted]
        exact iff_of_true rfl haccepted
      · rw [contract.register_of_refused hoffer haccepted]
        exact iff_of_false (fun h => by cases h) haccepted
  | error fault =>
      obtain ⟨houtcome, -⟩ := contract.connect_of_reading_error hdown hreading
      rw [hconnect] at houtcome
      cases houtcome
      dsimp only
      cases fault.isOf contract.keeps with
      | true => exact iff_of_true rfl rfl
      | false => exact iff_of_false (fun h => by cases h) (by decide)

/-- The component is integrated with what it offers, or left out. -/
theorem integrate_of_integrable (hdown : component.isConnected provider = false)
    (h : contract.Integrable client) (registries : Registries) :
    (∃ v, contract.reading client = .ok v ∧ Genuine component.providerId v ∧ Accepted db v.1
        ∧ contract.offer (NodeComponents.integrate component client (provider, registries)).2.1
          = some v
        ∧ (NodeComponents.integrate component client (provider, registries)).2.2
          = registries.enlist v)
      ∨ ∃ fault, contract.reading client = .error fault
        ∧ component.isConnected
          (NodeComponents.integrate component client (provider, registries)).2.1 = false
        ∧ (NodeComponents.integrate component client (provider, registries)).2.2 = registries := by
  rw [Integrable] at h
  rw [NodeComponents.integrate]
  rcases hconnect : component.connect client provider with ⟨outcome, provider'⟩
  cases hreading : contract.reading client with
  | ok v =>
      rw [hreading] at h
      obtain ⟨houtcome, hoffer⟩ := contract.connect_of_reading_ok (s := provider) hreading
      rw [hconnect] at houtcome hoffer
      cases houtcome
      dsimp only
      rw [contract.register_of_accepted hoffer h]
      exact .inl ⟨v, rfl, contract.genuine_of_reading hreading, h, hoffer, rfl⟩
  | error fault =>
      rw [hreading] at h
      obtain ⟨houtcome, hdisconnected⟩ := contract.connect_of_reading_error hdown hreading
      rw [hconnect] at houtcome hdisconnected
      dsimp only at h houtcome
      rw [if_pos h] at houtcome
      cases houtcome
      exact .inr ⟨fault, rfl, hdisconnected, rfl⟩

theorem integrated_integrate (hdown : component.isConnected provider = false)
    (h : contract.Integrable client) (registries : Registries) :
    contract.Integrated (NodeComponents.integrate component client (provider, registries)).2.1
      (NodeComponents.integrate component client (provider, registries)).2.2 := by
  obtain ⟨v, -, hgenuine, haccepted, hoffer, henlist⟩ | ⟨fault, -, hdisconnected, -⟩ :=
    contract.integrate_of_integrable hdown h registries
  · rw [henlist]
    exact contract.integrated_enlist hoffer hgenuine haccepted
  · exact contract.integrated_of_disconnected hdisconnected _

theorem admits_integrate (hdown : component.isConnected provider = false)
    (h : contract.Integrable client) (registries : Registries) :
    Registries.Admits component.providerId registries
      (NodeComponents.integrate component client (provider, registries)).2.2 := by
  obtain ⟨v, -, hgenuine, -, -, henlist⟩ | ⟨fault, -, -, hsame⟩ :=
    contract.integrate_of_integrable hdown h registries
  · exact .inr ⟨v, hgenuine, henlist⟩
  · exact .inl hsame

theorem integrate_spec (hdown : component.isConnected provider = false)
    (h : contract.Integrable client) (registries : Registries) :
    ∃ provider' registries',
      NodeComponents.integrate component client (provider, registries)
        = (.ok (), provider', registries')
        ∧ contract.Integrated provider' registries'
        ∧ Registries.Admits component.providerId registries registries' := by
  have hok := (contract.integrate_eq_ok_iff hdown registries).mpr h
  have hintegrated := contract.integrated_integrate hdown h registries
  have hadmits := contract.admits_integrate hdown h registries
  rcases hintegrate : NodeComponents.integrate component client (provider, registries)
    with ⟨outcome, provider', registries'⟩
  rw [hintegrate] at hok hintegrated hadmits
  cases hok
  exact ⟨provider', registries', rfl, hintegrated, hadmits⟩

/-- What a gateway may answer in the start and in the first round after it. -/
def Welcome (connecting firstRound : γ) : Prop :=
  match contract.reading connecting with
  | .ok v => Accepted db v.1
  | .error fault =>
      fault.isOf contract.keeps = true ∧ ∀ v, contract.reading firstRound = .ok v → Accepted db v.1

theorem welcome_of_reading {connecting : γ} (hreading : contract.reading connecting = .ok v)
    (haccepted : Accepted db v.1) (firstRound : γ) : contract.Welcome connecting firstRound := by
  rw [Welcome, hreading]
  exact haccepted

theorem integrable_of_welcome {connecting firstRound : γ}
    (h : contract.Welcome connecting firstRound) :
    contract.Integrable connecting := by
  rw [Welcome] at h
  rw [Integrable]
  cases hreading : contract.reading connecting with
  | ok v =>
      rw [hreading] at h
      exact h
  | error fault =>
      rw [hreading] at h
      exact h.1

/-- The component as it is after its integration, before it is evaluated for the first time. -/
theorem welcome_iff {connecting firstRound : γ} {tracked : Tracked σ}
    (hdown : component.isConnected provider = false) (hnew : tracked.snapshot.state ≠ .ready)
    (hconnected : ∃ registries, tracked.provider
      = (NodeComponents.integrate component connecting (provider, registries)).2.1) :
    contract.Welcome connecting firstRound
      ↔ contract.Integrable connecting ∧ ¬contract.Refuses firstRound tracked := by
  obtain ⟨integrated, snapshot⟩ := tracked
  obtain ⟨registries, rfl⟩ := hconnected
  constructor
  · intro h
    have hintegrable := contract.integrable_of_welcome h
    refine ⟨hintegrable, ?_⟩
    rintro ⟨-, w, hupcoming, hrefused⟩
    obtain ⟨v, -, -, haccepted, hoffer, -⟩ | ⟨fault, hreading, hdisconnected, -⟩ :=
      contract.integrate_of_integrable hdown hintegrable registries
    · rw [upcoming, if_pos (contract.isConnected_of_offer hoffer)] at hupcoming
      split_ifs at hupcoming
      rw [hoffer] at hupcoming
      cases hupcoming
      exact hrefused haccepted
    · rw [Welcome, hreading] at h
      exact hrefused (h.2 w (contract.reading_of_upcoming hdisconnected hupcoming))
  · rintro ⟨hintegrable, hrefuses⟩
    rw [Welcome]
    obtain ⟨v, hreading, -, haccepted, -, -⟩ | ⟨fault, hreading, hdisconnected, -⟩ :=
      contract.integrate_of_integrable hdown hintegrable registries
    · rw [hreading]
      exact haccepted
    · rw [Integrable, hreading] at hintegrable
      rw [hreading]
      refine ⟨hintegrable, fun w hw => ?_⟩
      by_contra hrefused
      exact hrefuses ⟨hnew, w, contract.upcoming_of_reading hdisconnected hw, hrefused⟩

variable {contract}

theorem Integrated.of_admits {id : String} {registries' : Registries}
    (h : contract.Integrated provider registries)
    (hadmits : Registries.Admits id registries registries') (hid : component.providerId ≠ id) :
    contract.Integrated provider registries' where
  settled := h.settled
  presentable := h.presentable
  listed v hv := by
    rw [hadmits.get?_of_ne hid]
    exact h.listed v hv

/-- A first evaluation that passes. -/
theorem Integrated.evaluate (h : contract.Integrated tracked.provider registries)
    (hnew : tracked.snapshot.state ≠ .ready) (hpasses : ¬contract.Refuses client tracked) :
    contract.Integrated (component.evaluate client (tracked, registries)).2.1.provider
      (component.evaluate client (tracked, registries)).2.2 := by
  cases hupcoming : contract.upcoming client tracked.provider with
  | none =>
      obtain ⟨hstate, hsettled, hworth⟩ := contract.check_of_none h.settled hupcoming
      rw [evaluate_of_steady (.inl hstate)]
      refine ⟨hsettled, fun v' hv' => ?_, fun v' hv' => ?_⟩
      · obtain ⟨v, hv, hworth⟩ := hworth v' hv'
        exact hworth.mpr (h.presentable v hv)
      · obtain ⟨v, hv, -⟩ := hworth v' hv'
        exact h.listed v hv
  | some v =>
      obtain ⟨hready, v', hoffer, hgenuine, hworth, -⟩ := contract.check_of_some h.settled hupcoming
      have haccepted : Accepted db v'.1 := by
        rw [hworth]
        by_contra hrefused
        exact hpasses ⟨hnew, v, hupcoming, hrefused⟩
      rw [contract.evaluate_of_accepted hready hnew hoffer haccepted]
      exact contract.integrated_enlist hoffer hgenuine haccepted

theorem Integrated.evaluate_spec (h : contract.Integrated tracked.provider registries)
    (hnew : tracked.snapshot.state ≠ .ready) (hpasses : ¬contract.Refuses client tracked) :
    ∃ tracked' registries', component.evaluate client (tracked, registries)
      = (.ok (), tracked', registries')
      ∧ contract.Integrated tracked'.provider registries'
      ∧ Registries.Admits component.providerId registries registries' := by
  have hok := (contract.evaluate_eq_ok_iff h.settled registries).mpr hpasses
  have hafter := h.evaluate hnew hpasses
  have hadmits := contract.admits_evaluate h.settled client registries
  rcases hevaluate : component.evaluate client (tracked, registries)
    with ⟨outcome, tracked', registries'⟩
  rw [hevaluate] at hok hafter hadmits
  cases hok
  exact ⟨tracked', registries', rfl, hafter, hadmits⟩

end Contract

/-! ### The stages that depend on a gateway -/

theorem providerIdZarya_ne_flux : ZaryaReport.providerIdZarya ≠ FluxReport.providerIdFlux := by
  decide

theorem filesystem_ne_zarya : "local.filesystem" ≠ ZaryaReport.providerIdZarya := by
  decide

theorem filesystem_ne_flux : "local.filesystem" ≠ FluxReport.providerIdFlux := by
  decide

namespace NodeComponents

variable {self : NodeComponents} {surroundings : Surroundings}

/-- Where the node keeps a component, and the two stages in which it turns to it, where it is
enabled. -/
structure Place {σ γ : Type} (component : Component σ γ) where
  enabled : NodeComponents → Bool
  tracked : NodeComponents → Tracked σ
  put : NodeComponents → Tracked σ → Registries → NodeComponents
  integration : γ → Stage Fault NodeComponents
  evaluation : γ → Stage Fault NodeComponents
  put_tracked : ∀ self, put self (tracked self) self.registries = self
  integration_of_enabled : ∀ {client self}, enabled self = true →
    let integrated := integrate component client ((tracked self).provider, self.registries)
    integration client self
      = (integrated.1, put self { tracked self with provider := integrated.2.1 } integrated.2.2)
  integration_of_disabled : ∀ {client self}, enabled self ≠ true →
    integration client self = (.ok (), self)
  evaluation_of_enabled : ∀ {client self}, enabled self = true →
    let evaluated := component.evaluate client (tracked self, self.registries)
    evaluation client self = (evaluated.1, put self evaluated.2.1 evaluated.2.2)
  evaluation_of_disabled : ∀ {client self}, enabled self ≠ true →
    evaluation client self = (.ok (), self)

def zaryaPlace (db : CharacterDatabase) : Place (Sovereign.zarya db) where
  enabled := zaryaEnabled
  tracked := NodeComponents.zarya
  put self zarya registries := { self with zarya, registries }
  integration := integrateZarya db
  evaluation := evaluateZarya db
  put_tracked _ := rfl
  integration_of_enabled h := if_pos h
  integration_of_disabled h := if_neg h
  evaluation_of_enabled h := if_pos h
  evaluation_of_disabled h := if_neg h

def fluxPlace (db : CharacterDatabase) : Place (Sovereign.flux db) where
  enabled := fluxEnabled
  tracked := NodeComponents.flux
  put self flux registries := { self with flux, registries }
  integration := integrateFlux db
  evaluation := evaluateFlux db
  put_tracked _ := rfl
  integration_of_enabled h := if_pos h
  integration_of_disabled h := if_neg h
  evaluation_of_enabled h := if_pos h
  evaluation_of_disabled h := if_neg h

namespace Place

variable {σ γ : Type} {component : Component σ γ} (place : Place component)
  {contract : Contract db component} {client : γ}

theorem integration_spec (self : NodeComponents)
    (hdown : component.isConnected (place.tracked self).provider = false)
    (h : place.enabled self = true → contract.Integrable client) :
    ∃ provider registries, place.integration client self
        = (.ok (), place.put self { place.tracked self with provider } registries)
      ∧ contract.Integrated provider registries
      ∧ Registries.Admits component.providerId self.registries registries
      ∧ (place.enabled self = true →
          provider
            = (integrate component client
              ((place.tracked self).provider, self.registries)).2.1) := by
  by_cases henabled : place.enabled self = true
  · obtain ⟨provider, registries, hintegrate, hintegrated, hadmits⟩ :=
      contract.integrate_spec hdown (h henabled) self.registries
    rw [place.integration_of_enabled henabled, hintegrate]
    exact ⟨provider, registries, rfl, hintegrated, hadmits, fun _ => rfl⟩
  · refine ⟨(place.tracked self).provider, self.registries, ?_,
      contract.integrated_of_disconnected hdown _, .inl rfl, fun h => absurd h henabled⟩
    rw [place.integration_of_disabled henabled, place.put_tracked]

theorem integrable_of_passes (hdown : component.isConnected (place.tracked self).provider = false)
    (h : Passes self (place.integration client)) (henabled : place.enabled self = true) :
    contract.Integrable client := by
  rw [Passes, place.integration_of_enabled henabled] at h
  exact (contract.integrate_eq_ok_iff hdown _).mp h

theorem evaluation_spec (self : NodeComponents)
    (hintegrated : contract.Integrated (place.tracked self).provider self.registries)
    (hnew : (place.tracked self).snapshot.state ≠ .ready)
    (h : place.enabled self = true → ¬contract.Refuses client (place.tracked self)) :
    ∃ tracked registries, place.evaluation client self = (.ok (), place.put self tracked registries)
      ∧ contract.Integrated tracked.provider registries
      ∧ Registries.Admits component.providerId self.registries registries := by
  by_cases henabled : place.enabled self = true
  · obtain ⟨tracked, registries, hevaluate, hafter, hadmits⟩ :=
      hintegrated.evaluate_spec hnew (h henabled)
    rw [place.evaluation_of_enabled henabled, hevaluate]
    exact ⟨tracked, registries, rfl, hafter, hadmits⟩
  · refine ⟨place.tracked self, self.registries, ?_, hintegrated, .inl rfl⟩
    rw [place.evaluation_of_disabled henabled, place.put_tracked]

theorem not_refuses_of_passes (self : NodeComponents)
    (hsettled : contract.Settled (place.tracked self).provider)
    (h : Passes self (place.evaluation client)) (henabled : place.enabled self = true) :
    ¬contract.Refuses client (place.tracked self) := by
  rw [Passes, place.evaluation_of_enabled henabled] at h
  exact (contract.evaluate_eq_ok_iff hsettled _).mp h

end Place

/-! ### The initialization -/

theorem locally_of_none {stage : LocalStage} (h : surroundings.faults stage = none)
    (effect : NodeComponents → NodeComponents) (self : NodeComponents) :
    locally surroundings stage effect self = (.ok (), effect self) := by
  rw [locally, h]

/-- Where the node itself comes up, three stages may still raise. -/
theorem initialization_eq (hfaults : ∀ stage, surroundings.faults stage = none)
    (self : NodeComponents) :
    initialization db surroundings self
      = inOrder [integrateZarya db surroundings.connecting.zarya,
        integrateFlux db surroundings.connecting.flux,
          discoverLocalNode db surroundings] (startFabric surroundings (registerInspect self)) := by
  have hlocal : ∀ stage effect self, locally surroundings stage effect self
    = (.ok (), effect self) :=
    fun stage => locally_of_none (hfaults stage)
  simp only [initialization, inOrder, hlocal, id_eq]

/-- The node before its start. -/
def configured (zaryaEnabled fluxEnabled : Bool) : NodeComponents := { zaryaEnabled, fluxEnabled }

/-- The node once it has come up. -/
structure Started (db : CharacterDatabase) (initialized : Bool) (node : NodeComponents) : Prop where
  zarya : (ZaryaProvider.contract db).Integrated node.zarya.provider node.registries
  flux : (FluxProvider.contract db).Integrated node.flux.provider node.registries
  sound : node.registries.Sound
  filesystem : node.registries.providers.get? "local.filesystem"
    = some (Registries.filesystem initialized)

theorem Started.presentable {initialized : Bool} (h : self.Started db initialized) :
    self.sources.Presentable db where
  registered := h.sound.lists db
  zarya := h.zarya.presentable
  flux := h.flux.presentable

/-- The node between its initialization and the first round. -/
structure Initialized (db : CharacterDatabase) (surroundings : Surroundings)
    (before node : NodeComponents) :
    Prop where
  started : node.Started db surroundings.fabricInitialized
  enabledZarya : node.zaryaEnabled = before.zaryaEnabled
  enabledFlux : node.fluxEnabled = before.fluxEnabled
  quiet : node.polling = false
  newZarya : node.zarya.snapshot = {}
  newFlux : node.flux.snapshot = {}
  connectedZarya : before.zaryaEnabled = true → ∃ registries, node.zarya.provider
    = (integrate (Sovereign.zarya db) surroundings.connecting.zarya ({}, registries)).2.1
  connectedFlux : before.fluxEnabled = true → ∃ registries, node.flux.provider
    = (integrate (Sovereign.flux db) surroundings.connecting.flux ({}, registries)).2.1

/-- The node with what it offers by itself. -/
def prepared (surroundings : Surroundings) (zaryaEnabled fluxEnabled : Bool) : NodeComponents :=
  startFabric surroundings (registerInspect (configured zaryaEnabled fluxEnabled))

theorem get?_prepared (surroundings : Surroundings) (zaryaEnabled fluxEnabled : Bool) :
    (prepared surroundings zaryaEnabled fluxEnabled).registries.providers.get? "local.filesystem"
      = some (Registries.filesystem surroundings.fabricInitialized) := by
  rw [prepared, startFabric]
  dsimp only
  rw [Registries.get?_startFabric, if_pos rfl]

theorem sound_prepared (surroundings : Surroundings) (zaryaEnabled fluxEnabled : Bool) :
    (prepared surroundings zaryaEnabled fluxEnabled).registries.Sound := by
  apply Registries.sound_startFabric rfl
  exact Registries.AllAvailable.registerCapability (fun id cap h => by cases h) rfl

/-- It is the node that the components start from. -/
theorem components_prepared (surroundings : Surroundings) (zaryaEnabled fluxEnabled : Bool) :
    (prepared surroundings zaryaEnabled fluxEnabled).registries.components
      = LocalComponents.start surroundings.fabricInitialized :=
  Registries.components_startFabric _ _

theorem discoverLocalNode_spec (surroundings : Surroundings) (h : self.sources.Presentable db) :
    ∃ ecosystem, discoverLocalNode db surroundings self = (.ok (), { self with ecosystem }) := by
  rw [discoverLocalNode, LocalSources.discoverLocalNode_eq_ok_iff.mpr ⟨h, rfl⟩]
  exact ⟨_, rfl⟩

theorem initialization_of_integrable {zaryaEnabled fluxEnabled : Bool}
    (hfaults : ∀ stage, surroundings.faults stage = none)
    (hzarya : zaryaEnabled = true →
      (ZaryaProvider.contract db).Integrable surroundings.connecting.zarya)
    (hflux : fluxEnabled = true →
      (FluxProvider.contract db).Integrable surroundings.connecting.flux) :
    ∃ node, initialization db surroundings (configured zaryaEnabled fluxEnabled) = (.ok (), node)
      ∧ Initialized db surroundings (configured zaryaEnabled fluxEnabled) node := by
  rw [initialization_eq hfaults]
  change ∃ node, inOrder _ (prepared surroundings zaryaEnabled fluxEnabled) = _ ∧ _
  obtain ⟨zarya, registries, hz, hzintegrated, hzadmits, hzconnected⟩ :=
    (zaryaPlace db).integration_spec (prepared surroundings zaryaEnabled fluxEnabled) rfl hzarya
  dsimp only [zaryaPlace] at hz
  rw [inOrder, hz]
  dsimp only
  generalize hbetween : ({ prepared surroundings zaryaEnabled fluxEnabled with
    zarya := { (prepared surroundings zaryaEnabled fluxEnabled).zarya with provider := zarya }
    registries } : NodeComponents) = between
  have hdown : between.flux.provider.isConnected = false := by
    rw [← hbetween]
    rfl
  obtain ⟨flux, registries', hf, hfintegrated, hfadmits, hfconnected⟩ :=
    (fluxPlace db).integration_spec between hdown (by rw [← hbetween]; exact hflux)
  subst hbetween
  dsimp only [fluxPlace] at hf
  rw [inOrder, hf]
  dsimp only
  have hstarted : Started db surroundings.fabricInitialized
      { prepared surroundings zaryaEnabled fluxEnabled with
        zarya := { provider := zarya }
        flux := { provider := flux }
        registries := registries' } := by
    refine ⟨hzintegrated.of_admits hfadmits providerIdZarya_ne_flux, hfintegrated, ?_, ?_⟩
    · exact ((sound_prepared surroundings zaryaEnabled fluxEnabled).admits hzadmits).admits hfadmits
    · refine (hfadmits.get?_of_ne filesystem_ne_flux).trans
        ((hzadmits.get?_of_ne filesystem_ne_zarya).trans ?_)
      exact get?_prepared surroundings zaryaEnabled fluxEnabled
  obtain ⟨ecosystem, hecosystem⟩ := discoverLocalNode_spec surroundings hstarted.presentable
  exact ⟨_, (inOrder_singleton _ _).trans hecosystem,
    ⟨hstarted.zarya, hstarted.flux, hstarted.sound, hstarted.filesystem⟩, rfl, rfl, rfl, rfl, rfl,
    fun h => ⟨_, hzconnected h⟩, fun h => ⟨_, hfconnected h⟩⟩

theorem integrable_of_initialization {zaryaEnabled fluxEnabled : Bool}
    (hfaults : ∀ stage, surroundings.faults stage = none)
    (h : Passes (configured zaryaEnabled fluxEnabled) (initialization db surroundings)) :
    (zaryaEnabled = true → (ZaryaProvider.contract db).Integrable surroundings.connecting.zarya)
      ∧ (fluxEnabled = true →
        (FluxProvider.contract db).Integrable surroundings.connecting.flux) := by
  rw [Passes, initialization_eq hfaults] at h
  obtain ⟨hz, hf, -⟩ := passes_inOrder_iff.mp h
  have hzarya : zaryaEnabled = true →
    (ZaryaProvider.contract db).Integrable surroundings.connecting.zarya :=
    (zaryaPlace db).integrable_of_passes rfl hz
  obtain ⟨zarya, registries, hintegrate, -⟩ :=
    (zaryaPlace db).integration_spec (prepared surroundings zaryaEnabled fluxEnabled) rfl hzarya
  dsimp only [zaryaPlace] at hintegrate
  rw [prepared] at hintegrate
  rw [after, hintegrate] at hf
  exact ⟨hzarya, (fluxPlace db).integrable_of_passes rfl hf⟩

/-! ### The first round -/

theorem startTracker_eq (hquiet : self.polling = false) :
    startTracker db surroundings self
      = pollAllComponents db surroundings.firstRound { self with
        node := .ready, polling := true } := by
  have hpolling : startPolling db surroundings.firstRound { self with node := .ready }
      = pollAllComponents db surroundings.firstRound { self with
        node := .ready, polling := true } := by
    rw [startPolling]
    dsimp only
    rw [hquiet, if_neg (by decide)]
  rw [startTracker, inOrder, setNodeReady]
  exact (inOrder_singleton _ _).trans hpolling

variable {answers : GatewayAnswers} {initialized : Bool}

theorem Started.pollAllComponents (h : self.Started db initialized)
    (hnewZarya : self.zarya.snapshot.state ≠ .ready) (hnewFlux : self.flux.snapshot.state ≠ .ready)
    (hzarya : self.zaryaEnabled = true →
      ¬(ZaryaProvider.contract db).Refuses answers.zarya self.zarya)
    (hflux : self.fluxEnabled = true → ¬(FluxProvider.contract db).Refuses answers.flux self.flux) :
    ∃ node, NodeComponents.pollAllComponents db answers self = (.ok (), node)
      ∧ node.Started db initialized := by
  obtain ⟨zarya, registries, hz, hzintegrated, hzadmits⟩ :=
    (zaryaPlace db).evaluation_spec self h.zarya hnewZarya hzarya
  dsimp only [zaryaPlace] at hz
  have hfluxThen : (FluxProvider.contract db).Integrated self.flux.provider registries :=
    h.flux.of_admits hzadmits providerIdZarya_ne_flux.symm
  obtain ⟨flux, registries', hf, hfintegrated, hfadmits⟩ :=
    (fluxPlace db).evaluation_spec { self with zarya, registries } hfluxThen hnewFlux hflux
  dsimp only [fluxPlace] at hf
  have hstarted : Started db initialized { self with zarya, flux, registries := registries' } := by
    refine ⟨hzintegrated.of_admits hfadmits providerIdZarya_ne_flux, hfintegrated, ?_, ?_⟩
    · exact (h.sound.admits hzadmits).admits hfadmits
    · exact (hfadmits.get?_of_ne filesystem_ne_flux).trans
        ((hzadmits.get?_of_ne filesystem_ne_zarya).trans h.filesystem)
  rw [NodeComponents.pollAllComponents, inOrder, hz]
  dsimp only
  rw [inOrder, hf]
  exact ⟨_, rfl, hstarted.zarya, hstarted.flux, hstarted.sound, hstarted.filesystem⟩

theorem not_refuses_of_pollAllComponents (h : self.Started db initialized)
    (hnewZarya : self.zarya.snapshot.state ≠ .ready)
    (hpasses : Passes self (pollAllComponents db answers)) :
    (self.zaryaEnabled = true → ¬(ZaryaProvider.contract db).Refuses answers.zarya self.zarya)
      ∧ (self.fluxEnabled = true → ¬(FluxProvider.contract db).Refuses answers.flux self.flux) := by
  obtain ⟨hz, hf, -⟩ := passes_inOrder_iff.mp hpasses
  have hzarya : self.zaryaEnabled = true →
    ¬(ZaryaProvider.contract db).Refuses answers.zarya self.zarya :=
    (zaryaPlace db).not_refuses_of_passes self h.zarya.settled hz
  obtain ⟨zarya, registries, hevaluate, -⟩ :=
    (zaryaPlace db).evaluation_spec self h.zarya hnewZarya hzarya
  dsimp only [zaryaPlace] at hevaluate
  rw [after, hevaluate] at hf
  exact ⟨hzarya,
    (fluxPlace db).not_refuses_of_passes { self with zarya, registries } h.flux.settled hf⟩

/-! ### Navigation to the filesystem -/

/-- Each capability of the filesystem can be navigated to, in whatever snapshot comes next. -/
def NavigatesLocally (db : CharacterDatabase) (identity : LocalIdentity)
    (self : NodeComponents) : Prop :=
  ∀ now answer registry, ∃ snapshot registry',
    self.sources.discover db identity now answer registry = .ok (snapshot, registry')
      ∧ ∀ capability ∈ LocalFilesystemProvider.descriptor.capabilities,
        (∃ c ∈ eligible {} (discoverCandidates snapshot capability),
          c.nodeId = identity.nodeId ∧ c.providerId = "local.filesystem")
        ∧ ∃ c, (navigate ⟨capability, {}⟩ snapshot).selected = some c

theorem Started.navigatesLocally {identity : LocalIdentity} (hid : IsUuidText identity.nodeId)
    (h : self.Started db true) : self.NavigatesLocally db identity := by
  intro now answer registry
  refine ⟨_, _, LocalSources.discover_eq_ok_iff.mpr ⟨h.presentable, rfl⟩,
    fun capability hcapability => ?_⟩
  obtain ⟨cap, hcap⟩ := Option.isSome_iff_exists.mp
    (h.sound.complete "local.filesystem" _ h.filesystem capability hcapability)
  have hnode : (self.sources.discovered db identity now answer registry).getNode identity.nodeId
      = some (LocalSources.localNode identity now registry (self.sources.listed db now)) :=
    LocalSources.getNode_discovered hid
  have hregistered : self.sources.registries.providers.get? "local.filesystem"
      = some (Registries.filesystem true) := h.filesystem
  have hentry := LocalSources.get?_listed hregistered db now
  have hmodel : EcosystemDiscoveryService.capabilityModel self.registries.fabric
    (Registries.filesystem true) capability
      = cap := by
    rw [EcosystemDiscoveryService.capabilityModel, Registries.fabric, hcap, Option.getD_some]
  have hmem : DiscoveredCapability.fromCapability cap
      ∈ (self.registries.discovered now (Registries.filesystem true)).capabilities := by
    rw [Registries.capabilities_discovered, ← hmodel]
    exact List.mem_map_of_mem hcapability
  have hcandidate : Candidate.of
    (LocalSources.localNode identity now registry (self.sources.listed db now))
      (self.registries.discovered now (Registries.filesystem true)) (.fromCapability cap)
      ∈ eligible {} (discoverCandidates
          ((self.sources.discovered db identity now answer registry).createSnapshot identity.nodeId)
            capability) := by
    rw [mem_eligible]
    refine ⟨mem_discoverCandidates.mpr ⟨_, _, _, hnode, hentry, hmem, ?_, rfl⟩, ?_⟩
    · exact self.registries.capabilities_keyed capability cap hcap
    · have havailable := h.sound.available capability cap hcap
      simp [rejection, rejection.rejectedStatus, Candidate.of, DiscoveredCapability.fromCapability,
        havailable, LocalSources.localNode, EcosystemDiscoveryService.localNode,
        Registries.discovered,
        DiscoveredProvider.fromProvider, Registries.filesystem]
  exact ⟨⟨_, hcandidate, rfl, rfl⟩, exists_selected capability hcandidate⟩

end NodeComponents

/-! ### The start -/

/-- The start returns, the runtime runs, and its filesystem can be navigated to. -/
def StartsLocally (db : CharacterDatabase) (call : Runtime.Call Fault) (surroundings : Surroundings)
    (zaryaEnabled fluxEnabled : Bool) : Prop :=
  (start db call surroundings (.fresh (.configured zaryaEnabled fluxEnabled))).1 = .ok ()
    ∧ (start db call surroundings (.fresh (.configured zaryaEnabled fluxEnabled))).2.state.status
      = .running
    ∧ (start db call surroundings
      (.fresh (.configured zaryaEnabled fluxEnabled))).2.components.NavigatesLocally db
        surroundings.identity

open NodeComponents in
/-- **The local start.** Where the node itself comes up, the start succeeds if and only if every
enabled gateway is welcome. -/
theorem startsLocally_iff_welcome (db : CharacterDatabase) (call : Runtime.Call Fault)
    (surroundings : Surroundings) (zaryaEnabled fluxEnabled : Bool)
    (hid : IsUuidText surroundings.identity.nodeId)
    (hfaults : ∀ stage, surroundings.faults stage = none)
    (hfabric : surroundings.fabricInitialized = true) :
    StartsLocally db call surroundings zaryaEnabled fluxEnabled
      ↔ (zaryaEnabled = true → (ZaryaProvider.contract db).Welcome surroundings.connecting.zarya
          surroundings.firstRound.zarya)
        ∧ (fluxEnabled = true → (FluxProvider.contract db).Welcome surroundings.connecting.flux
          surroundings.firstRound.flux) := by
  have hcreated : (Runtime.fresh (configured zaryaEnabled fluxEnabled)).state.status = .created :=
    rfl
  rw [StartsLocally, start, Runtime.start_eq_ok_iff call _ _ hcreated]
  have hnew {σ : Type} {tracked : Tracked σ} (h : tracked.snapshot = {}) :
      tracked.snapshot.state ≠ .ready := by
    rw [h]
    decide
  have hwelcome {node : NodeComponents}
      (h : Initialized db surroundings (configured zaryaEnabled fluxEnabled) node) :
      (zaryaEnabled = true → ((ZaryaProvider.contract db).Welcome surroundings.connecting.zarya
          surroundings.firstRound.zarya
            ↔ (ZaryaProvider.contract db).Integrable surroundings.connecting.zarya
            ∧ ¬(ZaryaProvider.contract db).Refuses surroundings.firstRound.zarya node.zarya))
        ∧ (fluxEnabled = true → ((FluxProvider.contract db).Welcome surroundings.connecting.flux
          surroundings.firstRound.flux
            ↔ (FluxProvider.contract db).Integrable surroundings.connecting.flux
            ∧ ¬(FluxProvider.contract db).Refuses surroundings.firstRound.flux node.flux)) :=
    ⟨fun henabled => (ZaryaProvider.contract db).welcome_iff rfl (hnew h.newZarya)
      (h.connectedZarya henabled),
      fun henabled => (FluxProvider.contract db).welcome_iff rfl (hnew h.newFlux)
        (h.connectedFlux henabled)⟩
  constructor
  · rintro ⟨⟨hinit, htracker⟩, -⟩
    obtain ⟨hzarya, hflux⟩ := integrable_of_initialization hfaults hinit
    obtain ⟨node, hnode, h⟩ := initialization_of_integrable hfaults hzarya hflux
    change Passes (initialization db surroundings (configured zaryaEnabled fluxEnabled)).2 _
      at htracker
    rw [hnode, Passes, startTracker_eq h.quiet] at htracker
    have hstarted : Started db surroundings.fabricInitialized { node with
      node := .ready, polling := true } :=
      ⟨h.started.zarya, h.started.flux, h.started.sound, h.started.filesystem⟩
    obtain ⟨hz, hf⟩ := not_refuses_of_pollAllComponents hstarted (hnew h.newZarya) htracker
    refine ⟨fun henabled => ((hwelcome h).1 henabled).mpr ⟨hzarya henabled, hz ?_⟩,
      fun henabled => ((hwelcome h).2 henabled).mpr ⟨hflux henabled, hf ?_⟩⟩
    · exact h.enabledZarya.trans henabled
    · exact h.enabledFlux.trans henabled
  · rintro ⟨hwelcomeZarya, hwelcomeFlux⟩
    obtain ⟨node, hnode, h⟩ := initialization_of_integrable hfaults
      (fun henabled => (ZaryaProvider.contract db).integrable_of_welcome (hwelcomeZarya henabled))
      (fun henabled => (FluxProvider.contract db).integrable_of_welcome (hwelcomeFlux henabled))
    have hz : node.zaryaEnabled = true →
        ¬(ZaryaProvider.contract db).Refuses surroundings.firstRound.zarya node.zarya := by
      intro henabled
      rw [h.enabledZarya] at henabled
      exact (((hwelcome h).1 henabled).mp (hwelcomeZarya henabled)).2
    have hf : node.fluxEnabled = true →
        ¬(FluxProvider.contract db).Refuses surroundings.firstRound.flux node.flux := by
      intro henabled
      rw [h.enabledFlux] at henabled
      exact (((hwelcome h).2 henabled).mp (hwelcomeFlux henabled)).2
    have hstarted : Started db surroundings.fabricInitialized { node with
      node := .ready, polling := true } :=
      ⟨h.started.zarya, h.started.flux, h.started.sound, h.started.filesystem⟩
    obtain ⟨node', hpoll, hstarted'⟩ :=
      hstarted.pollAllComponents (hnew h.newZarya) (hnew h.newFlux) hz hf
    have hinit :
      (initialization db surroundings
        (Runtime.fresh (configured zaryaEnabled fluxEnabled)).components) = (.ok (), node) := hnode
    have htracker : startTracker db surroundings node = (.ok (), node') :=
      (startTracker_eq h.quiet).trans hpoll
    rw [Passes, Passes, after, hinit, htracker, Runtime.start_of_started hcreated (by rw [hinit])
      (by rw [hinit, htracker]), hinit, htracker]
    rw [hfabric] at hstarted'
    exact ⟨⟨rfl, rfl⟩, rfl, hstarted'.navigatesLocally hid⟩

/-! ### Two starts -/

def ZaryaClient.unreachable : ZaryaClient where
  getProtocol := .error ⟨"ZaryaConnectionError", "Cannot connect to Zarya"⟩
  getIdentity := .error ⟨"ZaryaConnectionError", "Cannot connect to Zarya"⟩
  getCapabilities := .error ⟨"ZaryaConnectionError", "Cannot connect to Zarya"⟩
  getStatus := .error ⟨"ZaryaConnectionError", "Cannot connect to Zarya"⟩

def FluxClient.ofProtocol (protocolVersion : String) : FluxClient where
  getIdentity := .ok { peerId := "flux-1", version := "1.0.0", protocolVersion }
  getStatus := .ok { state := .running }

theorem FluxClient.reading_ofProtocol : ∃ v, (FluxClient.ofProtocol "1.0").reading = .ok v
    ∧ v.1.providerId = FluxReport.providerIdFlux ∧ v.1.version = "1.0.0" :=
  ⟨_, rfl, rfl, rfl⟩

/-- Zarya is away, and Flux speaks this version of its protocol. -/
def fluxAlone (protocolVersion : String) : Surroundings where
  identity := ⟨uuidText 1, "desk", "0.2.0"⟩
  now := .epoch
  connecting := ⟨.unreachable, .ofProtocol protocolVersion⟩
  firstRound := ⟨.unreachable, .ofProtocol protocolVersion⟩

def plainCall : Runtime.Call Fault where
  str
    | .raised exc => exc.text
    | .invalid model _ => model
  now _ := .epoch

theorem startsLocally_fluxAlone : StartsLocally .ascii plainCall (fluxAlone "1.0") true true := by
  obtain ⟨v, hreading, hid, hversion⟩ := FluxClient.reading_ofProtocol
  have haccepted : Accepted .ascii v.1 := by
    rw [accepted_iff ⟨_, by rw [hid]; exact FluxProvider.validProviderId .ascii⟩, hversion]
    exact ⟨_, Registries.validateVersion_default .ascii⟩
  refine (startsLocally_iff_welcome .ascii plainCall (fluxAlone "1.0") true true ⟨1, rfl⟩
    (fun _ => rfl) rfl).mpr
    ⟨fun _ => ⟨by decide, fun v hv => by cases hv⟩, fun _ => ?_⟩
  exact (FluxProvider.contract .ascii).welcome_of_reading hreading haccepted _

/-- Flux speaks version 2.0 of its protocol, and the node does not start. -/
theorem not_startsLocally_protocol :
    ¬StartsLocally .ascii plainCall (fluxAlone "2.0") true true := by
  rintro ⟨hok, -⟩
  obtain ⟨hinit, -⟩ := (Runtime.start_eq_ok_iff plainCall _ _ rfl).mp hok
  obtain ⟨-, hflux⟩ := NodeComponents.integrable_of_initialization (fun _ => rfl) hinit
  have hraised : Fault.isOf fluxClientErrors (.raised (FluxProvider.incompatible
      { peerId := "flux-1", version := "1.0.0", protocolVersion := "2.0" })) = true := hflux rfl
  exact absurd hraised (by decide)

end Sovereign

end Shyam
