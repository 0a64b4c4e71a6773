import Shyam.Core.Readiness
import Shyam.Proof.SovereignProviders

/-!
# One evaluation of a component

What a gateway answers amounts to an offer with which the component is found ready, or to none. An
evaluation that finds the component ready for the first time takes the offer into the registries,
and raises if it is refused there.
-/

namespace Shyam

open Python Fallible

namespace Sovereign

variable {db : CharacterDatabase}

/-! ### The registries -/

namespace Registries

variable {registries : Registries} {v : Offer} {id : String}

/-- An offer is registered as a whole. -/
def enlist (self : Registries) (v : Offer) : Registries :=
  v.2.foldl registerCapability (self.registerProvider v.1)

theorem providers_foldl (caps : List Capability) :
    (caps.foldl registerCapability registries).providers = registries.providers := by
  induction caps generalizing registries with
  | nil => rfl
  | cons cap caps ih => exact ih

theorem get?_providers_enlist : (registries.enlist v).providers.get? id
    = if id = v.1.providerId then some v.1 else registries.providers.get? id := by
  rw [enlist, providers_foldl, registerProvider, Dict.get?_set]

theorem isSome_get?_registerCapability (registries : Registries) (cap : Capability)
    (h : (registries.capabilities.get? id).isSome ∨ id = cap.capabilityId) :
    ((registries.registerCapability cap).capabilities.get? id).isSome := by
  rw [registerCapability, Dict.get?_set]
  split_ifs with hid
  · rfl
  · exact h.resolve_right hid

theorem isSome_get?_foldl {register : Registries → Capability → Registries} {caps : List Capability}
    (hregister : ∀ registries cap,
      (registries.capabilities.get? id).isSome ∨ id = cap.capabilityId →
      ((register registries cap).capabilities.get? id).isSome)
    (h : (registries.capabilities.get? id).isSome ∨ id ∈ caps.map Capability.capabilityId) :
    ((caps.foldl register registries).capabilities.get? id).isSome := by
  induction caps generalizing registries with
  | nil => exact h.resolve_right List.not_mem_nil
  | cons cap caps ih =>
      apply ih
      rw [List.map_cons, List.mem_cons] at h
      rcases h with h | h | h
      · exact .inl (hregister registries cap (.inl h))
      · exact .inl (hregister registries cap (.inr h))
      · exact .inr h

/-- Nothing was registered, or one offer of the provider `providerId`. -/
def Admits (providerId : String) (registries registries' : Registries) : Prop :=
  registries' = registries ∨ ∃ v, Genuine providerId v ∧ registries' = registries.enlist v

theorem Admits.get?_of_ne {registries' : Registries} {providerId : String}
    (h : Admits providerId registries registries') (hid : id ≠ providerId) :
    registries'.providers.get? id = registries.providers.get? id := by
  obtain rfl | ⟨v, hgenuine, rfl⟩ := h
  · rfl
  · rw [get?_providers_enlist, hgenuine.providerId, if_neg hid]

end Registries

namespace Contract

variable {σ γ : Type} {component : Component σ γ} (contract : Contract db component) {client : γ}
  {provider : σ} {registries : Registries} {v : Offer} {tracked : Tracked σ}

theorem register_of_accepted (hoffer : contract.offer provider = some v)
    (haccepted : Accepted db v.1) :
    component.register provider registries = (.ok (), registries.enlist v) := by
  rw [Component.register, contract.descriptor_of_offer hoffer, makeProvider_of_accepted haccepted,
    contract.definitions_of_offer hoffer]
  rfl

theorem register_of_refused (hoffer : contract.offer provider = some v)
    (hrefused : ¬Accepted db v.1) :
    component.register provider registries
      = (.error (.invalid "Provider" (v.1.errors db)), registries) := by
  rw [Component.register, contract.descriptor_of_offer hoffer,
    makeProvider_of_not_accepted hrefused]

/-! ### What a check finds -/

/-- A connected provider has cached an offer. -/
def Settled (provider : σ) : Prop :=
  component.isConnected provider = true →
    ∃ v, contract.offer provider = some v ∧ Genuine component.providerId v

theorem settled_of_disconnected (h : component.isConnected provider = false) :
    contract.Settled provider := by
  intro hconnected
  rw [h] at hconnected
  cases hconnected

theorem settled_of_offer (h : contract.offer provider = some v)
    (hgenuine : Genuine component.providerId v) :
    contract.Settled provider := fun _ => ⟨v, h, hgenuine⟩

/-- The offer with which the component is found ready. -/
def upcoming (client : γ) (provider : σ) : Option Offer :=
  if component.isConnected provider then
    if contract.polled client = some .available then contract.offer provider else none
  else (contract.reading client).toOption

theorem upcoming_of_reading (hdown : component.isConnected provider = false)
    (hreading : contract.reading client = .ok v) : contract.upcoming client provider = some v := by
  rw [upcoming, if_neg (by rw [hdown]; decide), hreading]
  rfl

theorem reading_of_upcoming (hdown : component.isConnected provider = false)
    (h : contract.upcoming client provider = some v) : contract.reading client = .ok v := by
  rw [upcoming, if_neg (by rw [hdown]; decide)] at h
  cases hreading : contract.reading client with
  | error fault =>
      rw [hreading] at h
      cases h
  | ok v' =>
      rw [hreading] at h
      cases h
      rfl

theorem stateOf_ne_ready {status : AvailabilityStatus} (h : status ≠ .available) :
    stateOf status ≠ .ready := by
  cases status with
  | available => exact absurd rfl h
  | registered => decide
  | unavailable => decide

/-- Without an upcoming offer the component is not ready, and what it has cached
is of the same worth. -/
theorem check_of_none (hsettled : contract.Settled provider)
    (h : contract.upcoming client provider = none) :
    (component.check client provider).1.state ≠ .ready
      ∧ contract.Settled (component.check client provider).2
      ∧ ∀ v', contract.offer (component.check client provider).2 = some v' →
          ∃ v, contract.offer provider = some v ∧ (Accepted db v'.1 ↔ Accepted db v.1) := by
  rw [upcoming] at h
  rw [Component.check]
  cases hconnected : component.isConnected provider with
  | true =>
      rw [if_pos hconnected] at h
      rw [if_pos rfl]
      obtain ⟨v, hoffer, hgenuine⟩ := hsettled hconnected
      cases hpolled : contract.polled client with
      | none =>
          obtain ⟨hstatus, hdown⟩ := contract.refresh_of_silent hoffer hpolled
          refine ⟨?_, contract.settled_of_disconnected hdown, fun v' hv' => ?_⟩
          · exact stateOf_ne_ready (by rw [hstatus]; decide)
          · rw [contract.offer_eq_none hdown] at hv'
            cases hv'
      | some status =>
          obtain ⟨hstatus, v', hoffer', hupdates⟩ := contract.refresh_of_polled hoffer hpolled
          have hdown : status ≠ .available := by
            rintro rfl
            rw [if_pos hpolled, hoffer] at h
            cases h
          refine ⟨?_, contract.settled_of_offer hoffer' (hupdates.genuine hgenuine),
            fun v'' hv'' => ?_⟩
          · exact stateOf_ne_ready (by rw [hstatus]; exact hdown)
          · rw [hoffer'] at hv''
            cases hv''
            exact ⟨v, hoffer, hupdates.accepted_iff⟩
  | false =>
      rw [if_neg (by rw [hconnected]; decide)] at h
      rw [if_neg (by decide)]
      cases hreading : contract.reading client with
      | ok v =>
          rw [hreading] at h
          cases h
      | error fault =>
          obtain ⟨houtcome, hdown⟩ := contract.connect_of_reading_error hconnected hreading
          rcases hconnect : component.connect client provider with ⟨outcome, provider'⟩
          rw [hconnect] at houtcome hdown
          have hnone : ∀ v', contract.offer provider' = some v' →
              ∃ v, contract.offer provider = some v ∧ (Accepted db v'.1 ↔ Accepted db v.1) := by
            intro v' hv'
            rw [contract.offer_eq_none hdown] at hv'
            cases hv'
          dsimp only at houtcome
          split_ifs at houtcome with hkept
          · rw [houtcome]
            exact ⟨ComponentState.noConfusion, contract.settled_of_disconnected hdown, hnone⟩
          · rw [houtcome]
            exact ⟨ComponentState.noConfusion, contract.settled_of_disconnected hdown, hnone⟩

/-- With an upcoming offer the component is ready; a connected one has another
status in it by then. -/
theorem check_of_some (hsettled : contract.Settled provider)
    (h : contract.upcoming client provider = some v) :
    (component.check client provider).1.state = .ready
      ∧ ∃ v', contract.offer (component.check client provider).2 = some v'
      ∧ Genuine component.providerId v'
        ∧ (Accepted db v'.1 ↔ Accepted db v.1)
        ∧ (v'.1.availability = .available ∨ component.isConnected provider = false ∧ v' = v) := by
  rw [Component.check]
  cases hconnected : component.isConnected provider with
  | true =>
      rw [upcoming, if_pos hconnected] at h
      rw [if_pos rfl]
      split_ifs at h with hpolled
      obtain ⟨hstatus, v', hoffer', hupdates⟩ := contract.refresh_of_polled h hpolled
      obtain ⟨v'', hoffer, hgenuine⟩ := hsettled hconnected
      rw [h] at hoffer
      cases hoffer
      refine ⟨?_, v', hoffer', hupdates.genuine hgenuine, hupdates.accepted_iff,
        .inl hupdates.availability⟩
      dsimp only
      rw [hstatus]
      rfl
  | false =>
      have hreading := contract.reading_of_upcoming hconnected h
      obtain ⟨houtcome, hoffer⟩ := contract.connect_of_reading_ok (s := provider) hreading
      rcases hconnect : component.connect client provider with ⟨outcome, provider'⟩
      rw [hconnect] at houtcome hoffer
      dsimp only at houtcome
      rw [if_neg (by decide), houtcome]
      exact ⟨rfl, v, hoffer, contract.genuine_of_reading hreading, Iff.rfl, .inr ⟨rfl, rfl⟩⟩

/-! ### The evaluation -/

theorem evaluate_of_steady (h : (component.check client tracked.provider).1.state ≠ .ready
      ∨ tracked.snapshot.state = .ready) :
    component.evaluate client (tracked, registries)
      = (.ok (),
        ⟨(component.check client tracked.provider).2, (component.check client tracked.provider).1⟩,
        registries) := by
  rw [Component.evaluate]
  dsimp only
  rw [if_neg fun hready => h.elim (absurd hready.1) hready.2]

theorem evaluate_of_accepted (hready : (component.check client tracked.provider).1.state = .ready)
    (hnew : tracked.snapshot.state ≠ .ready)
    (hoffer : contract.offer (component.check client tracked.provider).2 = some v)
    (haccepted : Accepted db v.1) :
    component.evaluate client (tracked, registries)
      = (.ok (),
        ⟨(component.check client tracked.provider).2, (component.check client tracked.provider).1⟩,
        registries.enlist v) := by
  rw [Component.evaluate]
  dsimp only
  rw [if_pos ⟨hready, hnew⟩, contract.register_of_accepted hoffer haccepted]

theorem evaluate_of_refused (hready : (component.check client tracked.provider).1.state = .ready)
    (hnew : tracked.snapshot.state ≠ .ready)
    (hoffer : contract.offer (component.check client tracked.provider).2 = some v)
    (hrefused : ¬Accepted db v.1) :
    component.evaluate client (tracked, registries)
      = (.error (.invalid "Provider" (v.1.errors db)),
        { tracked with provider := (component.check client tracked.provider).2 }, registries) := by
  rw [Component.evaluate]
  dsimp only
  rw [if_pos ⟨hready, hnew⟩, contract.register_of_refused hoffer hrefused]

/-- A component becomes ready with an offer that is refused. -/
def Refuses (client : γ) (tracked : Tracked σ) : Prop :=
  tracked.snapshot.state ≠ .ready ∧ ∃ v,
    contract.upcoming client tracked.provider = some v ∧ ¬Accepted db v.1

theorem evaluate_eq_ok_iff (hsettled : contract.Settled tracked.provider)
    (registries : Registries) :
    (component.evaluate client (tracked, registries)).1 = .ok ()
      ↔ ¬contract.Refuses client tracked := by
  cases hupcoming : contract.upcoming client tracked.provider with
  | none =>
      rw [evaluate_of_steady (.inl (contract.check_of_none hsettled hupcoming).1)]
      refine iff_of_true rfl ?_
      rintro ⟨-, v, hv, -⟩
      rw [hupcoming] at hv
      cases hv
  | some v =>
      obtain ⟨hready, v', hoffer, -, haccepted, -⟩ := contract.check_of_some hsettled hupcoming
      by_cases hnew : tracked.snapshot.state = .ready
      · rw [evaluate_of_steady (.inr hnew)]
        exact iff_of_true rfl fun h => h.1 hnew
      · by_cases hv : Accepted db v.1
        · rw [contract.evaluate_of_accepted hready hnew hoffer (haccepted.mpr hv)]
          refine iff_of_true rfl ?_
          rintro ⟨-, w, hw, hrefused⟩
          rw [hupcoming] at hw
          cases hw
          exact hrefused hv
        · rw [contract.evaluate_of_refused hready hnew hoffer fun hv' => hv (haccepted.mp hv')]
          exact iff_of_false (fun h => by cases h) fun h => h ⟨hnew, v, hupcoming, hv⟩

theorem admits_evaluate (hsettled : contract.Settled tracked.provider) (client : γ)
    (registries : Registries) :
    Registries.Admits component.providerId registries
      (component.evaluate client (tracked, registries)).2.2 := by
  cases hupcoming : contract.upcoming client tracked.provider with
  | none =>
      rw [evaluate_of_steady (.inl (contract.check_of_none hsettled hupcoming).1)]
      exact .inl rfl
  | some v =>
      obtain ⟨hready, v', hoffer, hgenuine, -, -⟩ := contract.check_of_some hsettled hupcoming
      by_cases hnew : tracked.snapshot.state = .ready
      · rw [evaluate_of_steady (.inr hnew)]
        exact .inl rfl
      · by_cases hv : Accepted db v'.1
        · rw [contract.evaluate_of_accepted hready hnew hoffer hv]
          exact .inr ⟨v', hgenuine, rfl⟩
        · rw [contract.evaluate_of_refused hready hnew hoffer hv]
          exact .inl rfl

/-! ### Readiness and registration -/

/-- An entry that nothing is routed to. -/
def Dormant (entry : Option Provider) : Prop :=
  ∀ provider, entry = some provider →
    provider.availability = .unavailable
      ∨ provider.availability = .registered ∧ provider.capabilities = []

/-- The tracker, the provider and the registries before an evaluation. -/
structure Prepared (tracked : Tracked σ) (registries : Registries) : Prop where
  settled : contract.Settled tracked.provider
  ready : tracked.snapshot.state = .ready →
    (∃ v, contract.offer tracked.provider = some v ∧ Accepted db v.1)
      ∧ ∃ entry, registries.providers.get? component.providerId = some entry
      ∧ entry.availability = .available
  listed : ∀ v, contract.offer tracked.provider = some v → Accepted db v.1 →
    (registries.providers.get? component.providerId).isSome

/-- And what the tracker does not report as ready is dormant. -/
structure Agrees (tracked : Tracked σ) (registries : Registries) : Prop extends
    contract.Prepared tracked registries where
  dormant : tracked.snapshot.state ≠ .ready →
    Dormant (registries.providers.get? component.providerId)

/-- An entry that is in use stays ready, and what appears is available. -/
structure Steady (client : γ) (provider : σ) (entry : Option Provider) : Prop where
  stays : Dormant entry ∨ ∃ v, contract.upcoming client provider = some v ∧ Accepted db v.1
  appears : component.isConnected provider = false → ∀ v, contract.reading client = .ok v →
    Accepted db v.1 →
    v.1.availability = .available

variable {contract}

theorem Prepared.of_providers {registries' : Registries} (h : contract.Prepared tracked registries)
    (hsame : registries'.providers.get? component.providerId
      = registries.providers.get? component.providerId) :
    contract.Prepared tracked registries' where
  settled := h.settled
  ready hready := by
    rw [hsame]
    exact h.ready hready
  listed := by
    rw [hsame]
    exact h.listed

theorem Agrees.of_providers {registries' : Registries} (h : contract.Agrees tracked registries)
    (hsame : registries'.providers.get? component.providerId
      = registries.providers.get? component.providerId) :
    contract.Agrees tracked registries' where
  toPrepared := h.toPrepared.of_providers hsame
  dormant := by
    rw [hsame]
    exact h.dormant

theorem Prepared.evaluate (h : contract.Prepared tracked registries)
    (hsteady : contract.Steady client tracked.provider
      (registries.providers.get? component.providerId)) :
    contract.Agrees (component.evaluate client (tracked, registries)).2.1
      (component.evaluate client (tracked, registries)).2.2 := by
  cases hupcoming : contract.upcoming client tracked.provider with
  | none =>
      obtain ⟨hstate, hsettled, hworth⟩ := contract.check_of_none h.settled hupcoming
      rw [evaluate_of_steady (.inl hstate)]
      refine ⟨⟨hsettled, fun hready => absurd hready hstate, fun v' hv' haccepted => ?_⟩,
        fun _ => ?_⟩
      · obtain ⟨v, hv, hworth⟩ := hworth v' hv'
        exact h.listed v hv (hworth.mp haccepted)
      · refine hsteady.stays.resolve_right ?_
        rintro ⟨v, hv, -⟩
        rw [hupcoming] at hv
        cases hv
  | some v =>
      obtain ⟨hready, v', hoffer, hgenuine, hworth, hstatus⟩ :=
        contract.check_of_some h.settled hupcoming
      have hsettled := contract.settled_of_offer hoffer hgenuine
      by_cases hnew : tracked.snapshot.state = .ready
      · obtain ⟨⟨w, hw, haccepted⟩, hentry⟩ := h.ready hnew
        have hv : v = w := by
          rw [upcoming, if_pos (contract.isConnected_of_offer hw)] at hupcoming
          split_ifs at hupcoming
          rw [hw] at hupcoming
          exact (Option.some.inj hupcoming).symm
        rw [evaluate_of_steady (.inr hnew)]
        refine ⟨⟨hsettled, fun _ => ⟨⟨v', hoffer, hworth.mpr (hv ▸ haccepted)⟩, hentry⟩,
          fun _ _ _ => ?_⟩, fun hstate => absurd hready hstate⟩
        obtain ⟨entry, hentry, -⟩ := hentry
        exact Option.isSome_of_eq_some hentry
      · by_cases haccepted : Accepted db v'.1
        · have hentry : (registries.enlist v').providers.get? component.providerId = some v'.1 := by
            rw [Registries.get?_providers_enlist, hgenuine.providerId, if_pos rfl]
          have havailable : v'.1.availability = .available := by
            rcases hstatus with hstatus | ⟨hdown, rfl⟩
            · exact hstatus
            · exact hsteady.appears hdown v'
                (contract.reading_of_upcoming hdown hupcoming) haccepted
          rw [contract.evaluate_of_accepted hready hnew hoffer haccepted]
          refine ⟨⟨hsettled, fun _ => ⟨⟨v', hoffer, haccepted⟩, v'.1, hentry, havailable⟩,
            fun _ _ _ => ?_⟩, fun hstate => absurd hready hstate⟩
          exact Option.isSome_of_eq_some hentry
        · rw [contract.evaluate_of_refused hready hnew hoffer haccepted]
          refine ⟨⟨hsettled, fun hready => absurd hready hnew, fun w hw hwaccepted => ?_⟩,
            fun _ => ?_⟩
          · rw [hoffer] at hw
            cases hw
            exact absurd hwaccepted haccepted
          · refine hsteady.stays.resolve_right ?_
            rintro ⟨w, hw, hwaccepted⟩
            rw [hupcoming] at hw
            cases hw
            exact haccepted (hworth.mpr hwaccepted)

end Contract

end Sovereign

end Shyam
