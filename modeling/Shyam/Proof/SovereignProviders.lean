import Shyam.Core.Readiness
import Shyam.Lib.Checks

/-!
# What the sovereign providers do

An offer is the descriptor of a component with its capabilities. The answers of a gateway amount to
an offer or to an exception, and both providers turn from one offer to another in the same way.
-/

namespace Shyam

open Python Fallible

namespace Sovereign

variable {db : CharacterDatabase}

/-! ### Models that are accepted -/

/-- The model takes the fields as they are. -/
def Accepted (db : CharacterDatabase) (provider : Provider) : Prop := provider.errors db = []

theorem makeProvider_of_accepted {provider : Provider} (h : Accepted db provider) :
    makeProvider db provider = .ok provider := by
  rw [makeProvider, h]

theorem makeProvider_of_not_accepted {provider : Provider} (h : ¬Accepted db provider) :
    makeProvider db provider = .error (.invalid "Provider" (provider.errors db)) := by
  rw [makeProvider]
  split
  · exact absurd ‹_› h
  · rfl

theorem makeCapability_eq_ok_iff {cap cap' : Capability} :
    makeCapability db cap = .ok cap' ↔ cap.errors db = [] ∧ cap' = cap := by
  rw [makeCapability]
  split
  · rename_i h
    rw [h, Except.ok.injEq, and_iff_right rfl, eq_comm]
  · rename_i h
    exact iff_of_false (fun h => by cases h) fun hnone => h hnone.1

/-- For a namespaced provider id, only the version counts. -/
theorem accepted_iff {provider : Provider}
    (hid : ∃ v, Provider.validateProviderId db provider.providerId = .ok v) :
    Accepted db provider ↔ ∃ v, validateVersion db provider.version = .ok v := by
  rw [Accepted, Provider.errors, List.append_eq_nil_iff, failures_eq_nil_iff, failures_eq_nil_iff,
    and_iff_right hid]

theorem validateProviderId_of_ascii {id v : String} (hascii : IsAscii id)
    (h : Provider.validateProviderId .ascii id = .ok v) :
    Provider.validateProviderId db id = .ok v := by
  rw [Provider.validateProviderId, validateDotted_of_ascii hascii]
  exact h

theorem validateVersion_zero (db : CharacterDatabase) :
    validateVersion db "0.0.0" = .ok "0.0.0" := by
  have hascii : IsAscii "0.0.0" := by decide
  rw [validateVersion_of_ascii hascii]
  decide

theorem accepted_disconnected {id : String} (h : Provider.validateProviderId db id = .ok id)
    (name description : String) : Accepted db (disconnected id name description) := by
  have hid : Provider.validateProviderId db (disconnected id name description).providerId
    = .ok id := h
  rw [accepted_iff ⟨id, hid⟩]
  exact ⟨"0.0.0", validateVersion_zero db⟩

/-! ### Offers -/

/-- A descriptor that need not be accepted, and the capabilities beside it. -/
abbrev Offer := Provider × List Capability

structure Genuine (providerId : String) (offer : Offer) : Prop where
  providerId : offer.1.providerId = providerId
  capabilities : offer.2.map Capability.capabilityId = offer.1.capabilities
  available : ∀ cap ∈ offer.2, cap.availability = .available

/-- The offer with another status. -/
structure Updates (offer offer' : Offer) (status : AvailabilityStatus) : Prop where
  availability : offer'.1.availability = status
  providerId : offer'.1.providerId = offer.1.providerId
  version : offer'.1.version = offer.1.version
  capabilities : offer'.1.capabilities = offer.1.capabilities
  definitions : offer'.2 = offer.2

theorem Updates.accepted_iff {offer offer' : Offer} {status : AvailabilityStatus}
    (h : Updates offer offer' status) :
    Accepted db offer'.1 ↔ Accepted db offer.1 := by
  rw [Accepted, Accepted, Provider.errors, Provider.errors, h.providerId, h.version]

theorem Updates.genuine {offer offer' : Offer} {status : AvailabilityStatus} {id : String}
    (h : Updates offer offer' status) (hgenuine : Genuine id offer) : Genuine id offer' where
  providerId := h.providerId.trans hgenuine.providerId
  capabilities := by
    rw [h.definitions, h.capabilities]
    exact hgenuine.capabilities
  available := by
    rw [h.definitions]
    exact hgenuine.available

/-- What a component does, told by its offers. `reading` is what complete answers amount to,
`polled` what the status alone says, `offer` what a connected provider would make its descriptor of,
and `fallback` its descriptor without an offer. -/
structure Contract (db : CharacterDatabase) {σ γ : Type} (component : Component σ γ) where
  keeps : List String
  reading : γ → Except Fault Offer
  polled : γ → Option AvailabilityStatus
  offer : σ → Option Offer
  fallback : Provider
  isConnected_of_offer : ∀ {s v}, offer s = some v → component.isConnected s = true
  genuine_of_reading : ∀ {g v}, reading g = .ok v → Genuine component.providerId v
  connect_of_reading_ok : ∀ {g s v}, reading g = .ok v →
    (component.connect g s).1 = .ok true ∧ offer (component.connect g s).2 = some v
  connect_of_reading_error : ∀ {g s f}, component.isConnected s = false → reading g = .error f →
    (component.connect g s).1 = (if f.isOf keeps then .ok false else .error f)
      ∧ component.isConnected (component.connect g s).2 = false
  refresh_of_polled : ∀ {g s v a}, offer s = some v → polled g = some a →
    (component.refreshStatus g s).1 = a
      ∧ ∃ v', offer (component.refreshStatus g s).2 = some v' ∧ Updates v v' a
  refresh_of_silent : ∀ {g s v}, offer s = some v → polled g = none →
    (component.refreshStatus g s).1 = .unavailable
      ∧ component.isConnected (component.refreshStatus g s).2 = false
  descriptor_of_offer : ∀ {s v}, offer s = some v → component.descriptor s = makeProvider db v.1
  descriptor_of_no_offer : ∀ {s}, offer s = none → component.descriptor s = .ok fallback
  definitions_of_offer : ∀ {s v}, offer s = some v → component.capabilityDefinitions s = v.2
  validProviderId : Provider.validateProviderId db component.providerId = .ok component.providerId

namespace Contract

variable {σ γ : Type} {component : Component σ γ} (contract : Contract db component) {provider : σ}
  {descriptor : Provider}

/-- Nothing that the model refuses would be described. -/
def Presentable (provider : σ) : Prop := ∀ v, contract.offer provider = some v → Accepted db v.1

def described (provider : σ) : Provider :=
  ((contract.offer provider).map Prod.fst).getD contract.fallback

theorem descriptor_eq_ok_iff : component.descriptor provider = .ok descriptor
    ↔ contract.Presentable provider ∧ descriptor = contract.described provider := by
  rw [Presentable, described]
  cases hoffer : contract.offer provider with
  | none =>
      rw [contract.descriptor_of_no_offer hoffer]
      simp [eq_comm]
  | some v =>
      rw [contract.descriptor_of_offer hoffer]
      by_cases haccepted : Accepted db v.1
      · simp [makeProvider_of_accepted haccepted, haccepted, eq_comm]
      · simp [makeProvider_of_not_accepted haccepted, haccepted]

theorem offer_eq_none (h : component.isConnected provider = false) :
    contract.offer provider = none := by
  cases hoffer : contract.offer provider with
  | none => rfl
  | some v =>
      rw [contract.isConnected_of_offer hoffer] at h
      cases h

end Contract

/-! ### Connecting and polling -/

section Provider

variable {σ α : Type} {self : σ} {negotiate : Stage Fault σ} {keeps : List String}
  {disconnect : σ → σ} {isConnected : σ → Bool} {answer : Except Exc α}
  {availability : α → AvailabilityStatus} {cache : α → σ → σ} {I : σ → Prop}

theorem connectBy_of_ok {self' : σ} (h : negotiate self = (.ok (), self')) :
    connectBy negotiate keeps disconnect self = (.ok true, self') := by
  rw [connectBy, h]

theorem connectBy_of_failed (hdisconnect : ∀ s, isConnected (disconnect s) = false) {fault : Fault}
    (hfailed : (negotiate self).1 = .error fault)
    (hkept : isConnected (negotiate self).2 = isConnected self) :
    (connectBy negotiate keeps disconnect self).1
      = (if fault.isOf keeps then .ok false else .error fault)
      ∧ isConnected (connectBy negotiate keeps disconnect self).2
        = (isConnected self && !fault.isOf keeps) := by
  rw [connectBy]
  rcases hnegotiate : negotiate self with ⟨outcome, self'⟩
  rw [hnegotiate] at hfailed hkept
  cases hfailed
  rw [← hkept]
  cases hfault : fault.isOf keeps with
  | true => simp [hfault, hdisconnect]
  | false => simp [hfault]

theorem connectBy_invariant (hdisconnect : ∀ s, I s → I (disconnect s))
    (h : I (after self negotiate)) :
    I (connectBy negotiate keeps disconnect self).2 := by
  rw [after] at h
  rw [connectBy]
  split
  · rename_i hnext
    rw [hnext] at h
    exact h
  · rename_i hnext
    rw [hnext] at h
    split_ifs
    · exact hdisconnect _ h
    · exact h

theorem refreshBy_invariant (hdisconnect : ∀ s, I s → I (disconnect s))
    (hcache : ∀ status s, I s → I (cache status s)) (h : I self) :
    I (refreshBy isConnected disconnect answer availability cache self).2 := by
  unfold refreshBy
  split_ifs
  · split
    · exact hcache _ _ h
    · exact hdisconnect _ h
  · exact h

/-- What a status says of the availability, where one is answered. -/
def polledBy (availability : α → AvailabilityStatus) (answer : Except Exc α) :
    Option AvailabilityStatus :=
  match answer with
  | .ok status => some (availability status)
  | .error _ => none

theorem refreshBy_of_polled (hconnected : isConnected self = true) {a : AvailabilityStatus}
    (hpolled : polledBy availability answer = some a) : ∃ status, availability status = a
      ∧ refreshBy isConnected disconnect answer availability cache self
        = (a, cache status self) := by
  cases answer with
  | error exc => cases hpolled
  | ok status =>
      cases hpolled
      exact ⟨status, rfl, if_pos hconnected⟩

theorem refreshBy_of_silent (hdisconnect : isConnected (disconnect self) = false)
    (hconnected : isConnected self = true) (hpolled : polledBy availability answer = none) :
    (refreshBy isConnected disconnect answer availability cache self).1 = .unavailable
      ∧ isConnected (refreshBy isConnected disconnect answer availability cache self).2 = false := by
  cases answer with
  | ok status => cases hpolled
  | error exc =>
      rw [refreshBy, if_pos hconnected]
      exact ⟨rfl, hdisconnect⟩

end Provider

/-! ### Zarya -/

/-- An answer of a client, as what the provider gets. -/
def answered {α : Type} : Except Exc α → Except Fault α
  | .ok value => .ok value
  | .error exc => .error (.raised exc)

namespace ZaryaClient

def polled (client : ZaryaClient) : Option AvailabilityStatus :=
  polledBy ZaryaReport.mapEcosystemStatusToAvailability client.getStatus

/-- The answers in their order, up to the first that is no good. -/
def reading (db : CharacterDatabase) (client : ZaryaClient) : Except Fault Offer := do
  let proto ← answered client.getProtocol
  if ZaryaProvider.expectedProtocol ∉ proto.supported
    ∧ proto.current ≠ ZaryaProvider.expectedProtocol then
    .error (.raised (ZaryaProvider.incompatible proto))
  else
    let identity ← answered client.getIdentity
    let response ← answered client.getCapabilities
    let caps ← ZaryaProvider.mapCapabilitiesResponse db response
    let status ← answered client.getStatus
    return ((zaryaReport identity response status).mapToShyamProvider, caps)

end ZaryaClient

namespace ZaryaProvider

variable {client : ZaryaClient} {provider : ZaryaProvider} {v : Offer} {fault : Fault}

def offer (self : ZaryaProvider) : Option Offer :=
  match self.isConnected, self.identity, self.capabilitiesResp, self.statusResp with
  | true, some identity, some response, some status =>
      some ((zaryaReport identity response status).mapToShyamProvider, self.discoveredCapabilities)
  | _, _, _, _ => none

theorem offer_eq_some_iff : provider.offer = some v
    ↔ ∃ identity response status, provider = ⟨some identity, some response, some status, v.2, true⟩
      ∧ v.1 = (zaryaReport identity response status).mapToShyamProvider := by
  obtain ⟨descriptor, caps⟩ := v
  obtain ⟨_ | identity, _ | response, _ | status, caps, _ | _⟩ := provider <;>
    simp [ZaryaProvider.offer, eq_comm, and_comm]

/-- The `try` block follows the reading of the answers. -/
theorem negotiate_spec (db : CharacterDatabase) (client : ZaryaClient) (provider : ZaryaProvider) :
    (∃ identity response status caps, client.reading db
          = .ok ((zaryaReport identity response status).mapToShyamProvider, caps)
        ∧ mapCapabilitiesResponse db response = .ok caps
        ∧ negotiate db client provider
          = (.ok (), ⟨some identity, some response, some status, caps, true⟩))
      ∨ ∃ fault, client.reading db = .error fault ∧ (negotiate db client provider).1 = .error fault
        ∧ (negotiate db client provider).2.isConnected = provider.isConnected := by
  rw [ZaryaClient.reading, negotiate]
  cases hproto : client.getProtocol with
  | error exc => exact .inr ⟨.raised exc, rfl, rfl, rfl⟩
  | ok proto =>
      by_cases hcompatible : expectedProtocol ∉ proto.supported ∧ proto.current ≠ expectedProtocol
      · refine .inr ⟨.raised (incompatible proto), ?_⟩
        simp [answered, bind, Except.bind, inOrder, request, checkProtocol, hcompatible]
      · cases hidentity : client.getIdentity with
        | error exc =>
            refine .inr ⟨.raised exc, ?_⟩
            simp [answered, bind, Except.bind, inOrder, request, checkProtocol, hcompatible]
        | ok identity =>
            cases hresponse : client.getCapabilities with
            | error exc =>
                refine .inr ⟨.raised exc, ?_⟩
                simp [answered, bind, Except.bind, inOrder, request, checkProtocol,
                  hcompatible, cacheIdentity]
            | ok response =>
                cases hcaps : mapCapabilitiesResponse db response with
                | error fault =>
                    refine .inr ⟨fault, ?_⟩
                    simp [answered, bind, Except.bind, inOrder, request, checkProtocol, hcompatible,
                      cacheIdentity, cacheCapabilities, hcaps]
                | ok caps =>
                    cases hstatus : client.getStatus with
                    | error exc =>
                        refine .inr ⟨.raised exc, ?_⟩
                        simp [answered, bind, Except.bind, inOrder, request, checkProtocol,
                          hcompatible, cacheIdentity, cacheCapabilities, hcaps]
                    | ok status =>
                        refine .inl ⟨identity, response, status, caps, ?_⟩
                        simp [answered, bind, Except.bind, inOrder, request, checkProtocol,
                          hcompatible, cacheIdentity, cacheCapabilities, hcaps, cacheStatus, pure,
                          Except.pure]

theorem mapCapabilitiesResponse_eq_ok_iff {response : CapabilitiesResponse}
    {caps : List Capability} :
    mapCapabilitiesResponse db response = .ok caps
      ↔ (∀ entry ∈ response.capabilities,
          (ZaryaReport.mapCapabilityEntryToCapability db.title entry).errors db = [])
        ∧ caps = response.capabilities.map (ZaryaReport.mapCapabilityEntryToCapability db.title) :=
  Checks.mapM_eq_ok_iff fun _ _ => makeCapability_eq_ok_iff

theorem genuine_of_mapped {identity : IdentityResponse} {response : CapabilitiesResponse}
    {status : EcosystemStatus} {caps : List Capability}
    (h : mapCapabilitiesResponse db response = .ok caps) :
    Genuine ZaryaReport.providerIdZarya ((zaryaReport identity response status).mapToShyamProvider,
      caps) := by
  obtain ⟨-, rfl⟩ := mapCapabilitiesResponse_eq_ok_iff.mp h
  refine ⟨rfl, ?_, ?_⟩
  · rw [List.map_map]
    rfl
  · intro cap hcap
    obtain ⟨entry, -, rfl⟩ := List.mem_map.mp hcap
    rfl

theorem genuine_of_reading (h : client.reading db = .ok v) :
    Genuine ZaryaReport.providerIdZarya v := by
  obtain ⟨identity, response, status, caps, hreading, hcaps, -⟩ | ⟨fault, hreading, -⟩ :=
    negotiate_spec db client {}
  · rw [h] at hreading
    cases hreading
    exact genuine_of_mapped hcaps
  · rw [h] at hreading
    cases hreading

theorem connect_of_reading_ok (h : client.reading db = .ok v) :
    (connect db client provider).1 = .ok true ∧ (connect db client provider).2.offer = some v := by
  obtain ⟨identity, response, status, caps, hreading, -, hnegotiate⟩ | ⟨fault, hreading, -⟩ :=
    negotiate_spec db client provider
  · rw [h] at hreading
    cases hreading
    rw [connect, connectBy_of_ok hnegotiate]
    exact ⟨rfl, rfl⟩
  · rw [h] at hreading
    cases hreading

theorem connect_of_reading_error (provider : ZaryaProvider) (h : client.reading db = .error fault) :
    (connect db client provider).1
      = (if fault.isOf zaryaClientErrors then .ok false else .error fault)
      ∧ (connect db client provider).2.isConnected
        = (provider.isConnected && !fault.isOf zaryaClientErrors) := by
  obtain ⟨identity, response, status, caps, hreading, -, -⟩
    | ⟨fault', hreading, houtcome, hconnected⟩ :=
    negotiate_spec db client provider
  · rw [h] at hreading
    cases hreading
  · rw [h] at hreading
    cases hreading
    exact connectBy_of_failed (fun _ => rfl) houtcome hconnected

theorem isConnected_of_offer (h : provider.offer = some v) : provider.isConnected = true := by
  obtain ⟨identity, response, status, rfl, -⟩ := offer_eq_some_iff.mp h
  rfl

theorem refresh_of_polled {status : AvailabilityStatus} (h : provider.offer = some v)
    (hpolled : client.polled = some status) :
    (refreshStatus client provider).1 = status
      ∧ ∃ v', (refreshStatus client provider).2.offer = some v' ∧ Updates v v' status := by
  obtain ⟨answer, rfl, hrefresh⟩ : ∃ answer,
    ZaryaReport.mapEcosystemStatusToAvailability answer = status
      ∧ refreshStatus client provider = (status, { provider with statusResp := some answer }) :=
    refreshBy_of_polled (isConnected_of_offer h) hpolled
  obtain ⟨identity, response, last, rfl, hdescriptor⟩ := offer_eq_some_iff.mp h
  rw [hrefresh]
  exact ⟨rfl, _, rfl,
    ⟨rfl, by rw [hdescriptor]; rfl, by rw [hdescriptor]; rfl, by rw [hdescriptor]; rfl, rfl⟩⟩

theorem descriptor_of_offer (h : provider.offer = some v) :
    provider.descriptor db = makeProvider db v.1 := by
  obtain ⟨identity, response, status, rfl, hdescriptor⟩ := offer_eq_some_iff.mp h
  rw [hdescriptor]
  rfl

theorem isAscii_providerIdZarya : IsAscii ZaryaReport.providerIdZarya := by
  decide

theorem validProviderId (db : CharacterDatabase) :
    Provider.validateProviderId db ZaryaReport.providerIdZarya = .ok ZaryaReport.providerIdZarya :=
  validateProviderId_of_ascii isAscii_providerIdZarya (by decide)

theorem accepted_disconnectedDescriptor (db : CharacterDatabase) :
    Accepted db disconnectedDescriptor :=
  accepted_disconnected (validProviderId db) _ _

/-- Without an offer, the descriptor is that of a provider that is not connected. -/
theorem descriptor_of_no_offer (h : provider.offer = none) :
    provider.descriptor db = .ok disconnectedDescriptor := by
  have hmake : makeProvider db disconnectedDescriptor = .ok disconnectedDescriptor :=
    makeProvider_of_accepted (accepted_disconnectedDescriptor db)
  obtain ⟨_ | identity, _ | response, _ | status, caps, _ | _⟩ := provider <;>
    first | exact hmake | cases h

def contract (db : CharacterDatabase) : Contract db (zarya db) where
  keeps := zaryaClientErrors
  reading := ZaryaClient.reading db
  polled := ZaryaClient.polled
  offer := ZaryaProvider.offer
  fallback := disconnectedDescriptor
  isConnected_of_offer := isConnected_of_offer
  genuine_of_reading := genuine_of_reading
  connect_of_reading_ok := connect_of_reading_ok
  connect_of_reading_error := by
    intro client provider fault hdisconnected hreading
    obtain ⟨houtcome, hconnected⟩ := connect_of_reading_error provider hreading
    refine ⟨houtcome, hconnected.trans ?_⟩
    rw [show provider.isConnected = false from hdisconnected, Bool.false_and]
  refresh_of_polled := refresh_of_polled
  refresh_of_silent := fun hoffer hpolled =>
    refreshBy_of_silent rfl (isConnected_of_offer hoffer) hpolled
  descriptor_of_offer := descriptor_of_offer
  descriptor_of_no_offer := descriptor_of_no_offer
  definitions_of_offer := by
    intro provider v hoffer
    obtain ⟨identity, response, status, rfl, -⟩ := offer_eq_some_iff.mp hoffer
    rfl
  validProviderId := validProviderId db

end ZaryaProvider

/-! ### Flux -/

namespace FluxClient

def polled (client : FluxClient) : Option AvailabilityStatus :=
  polledBy (fun status => FluxReport.mapFluxStateToAvailability status.state) client.getStatus

def reading (client : FluxClient) : Except Fault Offer := do
  let identity ← answered client.getIdentity
  if identity.protocolVersion.toList.head? = some '1' then
    let status ← answered client.getStatus
    return ((fluxReport identity status).mapToShyamProvider, FluxReport.capabilityDefinitions)
  else .error (.raised (FluxProvider.incompatible identity))

end FluxClient

namespace FluxProvider

variable {client : FluxClient} {provider : FluxProvider} {v : Offer} {fault : Fault}

def offer (self : FluxProvider) : Option Offer :=
  match self.isConnected, self.identity, self.statusResp with
  | true, some identity, some status =>
      some ((fluxReport identity status).mapToShyamProvider, FluxReport.capabilityDefinitions)
  | _, _, _ => none

theorem offer_eq_some_iff : provider.offer = some v
    ↔ ∃ identity status, provider = ⟨some identity, some status, true⟩
      ∧ v = ((fluxReport identity status).mapToShyamProvider,
        FluxReport.capabilityDefinitions) := by
  obtain ⟨_ | identity, _ | status, _ | _⟩ := provider <;> simp [FluxProvider.offer, eq_comm]

theorem negotiate_spec (client : FluxClient) (provider : FluxProvider) :
    (∃ identity status, client.reading
          = .ok ((fluxReport identity status).mapToShyamProvider, FluxReport.capabilityDefinitions)
        ∧ negotiate client provider = (.ok (), ⟨some identity, some status, true⟩))
      ∨ ∃ fault, client.reading = .error fault ∧ (negotiate client provider).1 = .error fault
        ∧ (negotiate client provider).2.isConnected = provider.isConnected := by
  rw [FluxClient.reading, negotiate]
  cases hidentity : client.getIdentity with
  | error exc => exact .inr ⟨.raised exc, rfl, rfl, rfl⟩
  | ok identity =>
      by_cases hcompatible : identity.protocolVersion.toList.head? = some '1'
      · cases hstatus : client.getStatus with
        | error exc =>
            refine .inr ⟨.raised exc, ?_⟩
            simp [answered, bind, Except.bind, inOrder, request, cacheIdentity, hcompatible]
        | ok status =>
            refine .inl ⟨identity, status, ?_⟩
            simp [answered, bind, Except.bind, inOrder, request, cacheIdentity, hcompatible,
              cacheStatus, pure, Except.pure]
      · refine .inr ⟨.raised (incompatible identity), ?_⟩
        simp [answered, bind, Except.bind, inOrder, request, cacheIdentity, hcompatible]

theorem available_of_mem :
    ∀ cap ∈ FluxReport.capabilityDefinitions, cap.availability = .available := by
  decide

theorem genuine_of_reading (h : client.reading = .ok v) : Genuine FluxReport.providerIdFlux v := by
  obtain ⟨identity, status, hreading, -⟩ | ⟨fault, hreading, -⟩ := negotiate_spec client {}
  · rw [h] at hreading
    cases hreading
    exact ⟨rfl, rfl, available_of_mem⟩
  · rw [h] at hreading
    cases hreading

theorem connect_of_reading_ok (h : client.reading = .ok v) :
    (connect client provider).1 = .ok true ∧ (connect client provider).2.offer = some v := by
  obtain ⟨identity, status, hreading, hnegotiate⟩ | ⟨fault, hreading, -⟩ :=
    negotiate_spec client provider
  · rw [h] at hreading
    cases hreading
    rw [connect, connectBy_of_ok hnegotiate]
    exact ⟨rfl, rfl⟩
  · rw [h] at hreading
    cases hreading

theorem connect_of_reading_error (provider : FluxProvider) (h : client.reading = .error fault) :
    (connect client provider).1 = (if fault.isOf fluxClientErrors then .ok false else .error fault)
      ∧ (connect client provider).2.isConnected
        = (provider.isConnected && !fault.isOf fluxClientErrors) := by
  obtain ⟨identity, status, hreading, -⟩ | ⟨fault', hreading, houtcome, hconnected⟩ :=
    negotiate_spec client provider
  · rw [h] at hreading
    cases hreading
  · rw [h] at hreading
    cases hreading
    exact connectBy_of_failed (fun _ => rfl) houtcome hconnected

theorem isConnected_of_offer (h : provider.offer = some v) : provider.isConnected = true := by
  obtain ⟨identity, status, rfl, -⟩ := offer_eq_some_iff.mp h
  rfl

theorem refresh_of_polled {status : AvailabilityStatus} (h : provider.offer = some v)
    (hpolled : client.polled = some status) :
    (refreshStatus client provider).1 = status
      ∧ ∃ v', (refreshStatus client provider).2.offer = some v' ∧ Updates v v' status := by
  obtain ⟨answer, rfl, hrefresh⟩ : ∃ answer,
    FluxReport.mapFluxStateToAvailability answer.state = status
      ∧ refreshStatus client provider = (status, { provider with statusResp := some answer }) :=
    refreshBy_of_polled (isConnected_of_offer h) hpolled
  obtain ⟨identity, last, rfl, rfl⟩ := offer_eq_some_iff.mp h
  rw [hrefresh]
  exact ⟨rfl, _, rfl, ⟨rfl, rfl, rfl, rfl, rfl⟩⟩

theorem descriptor_of_offer (h : provider.offer = some v) :
    provider.descriptor db = makeProvider db v.1 := by
  obtain ⟨identity, status, rfl, rfl⟩ := offer_eq_some_iff.mp h
  rfl

theorem isAscii_providerIdFlux : IsAscii FluxReport.providerIdFlux := by
  decide

theorem validProviderId (db : CharacterDatabase) :
    Provider.validateProviderId db FluxReport.providerIdFlux = .ok FluxReport.providerIdFlux :=
  validateProviderId_of_ascii isAscii_providerIdFlux (by decide)

theorem accepted_disconnectedDescriptor (db : CharacterDatabase) :
    Accepted db disconnectedDescriptor :=
  accepted_disconnected (validProviderId db) _ _

theorem descriptor_of_no_offer (h : provider.offer = none) :
    provider.descriptor db = .ok disconnectedDescriptor := by
  have hmake : makeProvider db disconnectedDescriptor = .ok disconnectedDescriptor :=
    makeProvider_of_accepted (accepted_disconnectedDescriptor db)
  obtain ⟨_ | identity, _ | status, _ | _⟩ := provider <;>
    first | exact hmake | cases h

def contract (db : CharacterDatabase) : Contract db (flux db) where
  keeps := fluxClientErrors
  reading := FluxClient.reading
  polled := FluxClient.polled
  offer := FluxProvider.offer
  fallback := disconnectedDescriptor
  isConnected_of_offer := isConnected_of_offer
  genuine_of_reading := genuine_of_reading
  connect_of_reading_ok := connect_of_reading_ok
  connect_of_reading_error := by
    intro client provider fault hdisconnected hreading
    obtain ⟨houtcome, hconnected⟩ := connect_of_reading_error provider hreading
    refine ⟨houtcome, hconnected.trans ?_⟩
    rw [show provider.isConnected = false from hdisconnected, Bool.false_and]
  refresh_of_polled := refresh_of_polled
  refresh_of_silent := fun hoffer hpolled =>
    refreshBy_of_silent rfl (isConnected_of_offer hoffer) hpolled
  descriptor_of_offer := descriptor_of_offer
  descriptor_of_no_offer := descriptor_of_no_offer
  definitions_of_offer := by
    intro provider v hoffer
    obtain ⟨identity, status, rfl, rfl⟩ := offer_eq_some_iff.mp hoffer
    rfl
  validProviderId := validProviderId db

end FluxProvider

end Sovereign

end Shyam
