import Shyam.Core.Components
import Shyam.Providers.Registry

/-!
# What the registries publish

Whoever follows the events of a registry can rebuild it, and each event says what has changed. The
start of the fabric leaves every local provider registered, with what its `initialize` came to, and
adds capabilities without touching those that are there.
-/

namespace Shyam

open Python Ledger Transition

/-! ### Readers of the events -/

namespace ProviderEvent

/-- An update names the availability that it replaces. -/
def Fits (providers : Dict Provider) : ProviderEvent → Prop
  | registered providerId provider =>
      provider.providerId = providerId ∧ providers.get? providerId = none
  | updated providerId provider previousAvailability => provider.providerId = providerId
      ∧ ∃ previous, providers.get? providerId = some previous
        ∧ previousAvailability = some previous.availability.value
  | unregistered providerId => (providers.get? providerId).isSome

def applyTo (providers : Dict Provider) : ProviderEvent → Dict Provider
  | registered providerId provider | updated providerId provider _ =>
      providers.set providerId provider
  | unregistered providerId => providers.erase providerId

def reader : Reader ProviderRegistry.kind where
  Fits := Fits
  applyTo := applyTo
  added habsent := ⟨⟨rfl, habsent⟩, rfl⟩
  replaced hprevious := ⟨⟨rfl, _, hprevious, rfl⟩, rfl⟩
  removed hpresent := ⟨hpresent, rfl⟩

end ProviderEvent

namespace CapabilityEvent

def Fits (capabilities : Dict Capability) : CapabilityEvent → Prop
  | registered capabilityId cap =>
      cap.capabilityId = capabilityId ∧ capabilities.get? capabilityId = none
  | updated capabilityId cap previousAvailability => cap.capabilityId = capabilityId
      ∧ ∃ previous, capabilities.get? capabilityId = some previous
        ∧ previousAvailability = some previous.availability.value
  | unregistered capabilityId => (capabilities.get? capabilityId).isSome

def applyTo (capabilities : Dict Capability) : CapabilityEvent → Dict Capability
  | registered capabilityId cap | updated capabilityId cap _ => capabilities.set capabilityId cap
  | unregistered capabilityId => capabilities.erase capabilityId

def reader : Reader CapabilityRegistry.kind where
  Fits := Fits
  applyTo := applyTo
  added habsent := ⟨⟨rfl, habsent⟩, rfl⟩
  replaced hprevious := ⟨⟨rfl, _, hprevious, rfl⟩, rfl⟩
  removed hpresent := ⟨hpresent, rfl⟩

end CapabilityEvent

/-! ### Every write -/

section

variable {α ε : Type} {kind : Kind α ε} {errors : RegistryErrors} {reader : Reader kind}
  {self : Register α ε}

theorem recorded_registerEntry (h : self.Recorded reader) (entry : α) (overwrite : Bool) :
    (registerEntry kind errors entry overwrite self).2.Recorded reader := by
  rw [registerEntry]
  split_ifs
  · exact h
  · exact h.put entry

theorem recorded_unregisterEntry (h : self.Recorded reader) (id : String) :
    (unregisterEntry kind errors id self).2.Recorded reader := by
  rw [unregisterEntry]
  cases hentry : self.entries.get? id with
  | none => exact h
  | some entry => exact h.remove (Option.isSome_of_eq_some hentry)

end

namespace LocalProviderFabric

/-- Both registries are what their events come to. -/
structure Recorded (fabric : LocalProviderFabric) : Prop where
  providers : fabric.providers.Recorded ProviderEvent.reader
  capabilities : fabric.capabilities.Recorded CapabilityEvent.reader

variable {self : LocalProviderFabric}

theorem Recorded.ensureCapability (h : self.Recorded) (cap : Capability) :
    (self.ensureCapability cap).Recorded := by
  rw [LocalProviderFabric.ensureCapability]
  split_ifs
  · exact h
  · exact ⟨h.providers, recorded_registerEntry h.capabilities cap false⟩

theorem Recorded.step (h : self.Recorded) (action : FabricAction) :
    (self.step action).Recorded := by
  cases action with
  | registerProvider provider overwrite =>
      exact ⟨recorded_registerEntry h.providers provider overwrite, h.capabilities⟩
  | unregisterProvider id => exact ⟨recorded_unregisterEntry h.providers id, h.capabilities⟩
  | registerCapability cap overwrite =>
      exact ⟨h.providers, recorded_registerEntry h.capabilities cap overwrite⟩
  | unregisterCapability id => exact ⟨h.providers, recorded_unregisterEntry h.capabilities id⟩
  | enlist prov => exact ⟨h.providers, h.capabilities⟩
  | ensureCapability cap => exact h.ensureCapability cap
  | stop => exact ⟨h.providers, h.capabilities⟩

theorem recorded_run (actions : List FabricAction) : (run step {} actions).Recorded :=
  run_of_invariant (fun _ action h => h.step action) actions
    ⟨Register.recorded_empty, Register.recorded_empty⟩

/-- The start of the fabric is a sequence of writes. -/
theorem start_eq_run (built : List (LocalProvider × Except Exc Unit)) (self : LocalProviderFabric) :
    self.start built = run step self (built.flatMap launchActions) := by
  induction built generalizing self with
  | nil => rfl
  | cons b built ih =>
      have hensured (caps : List Capability) (self : LocalProviderFabric) :
          caps.foldl LocalProviderFabric.ensureCapability self
            = run step self (caps.map .ensureCapability) := by
        rw [run, List.foldl_map]
        rfl
      rw [List.flatMap_cons, run_append, start, List.foldl_cons, ← start, ih]
      congr 1
      rw [launchActions, List.cons_append, run_cons, run_append, ← hensured]
      rfl

/-- **The registries.** Before, during and after the start of the fabric, in whatever order
providers and capabilities are registered and unregistered: each event published fits what the
events before it come to, an update names the availability that it replaces, and all events together
come to the entries of the registry. -/
theorem registries_recorded (actions later : List FabricAction)
    (built : List (LocalProvider × Except Exc Unit)) :
    (run step ((run step {} actions).start built) later).Recorded := by
  rw [start_eq_run, ← run_append, ← run_append]
  exact recorded_run _

/-! ### The start of the fabric -/

variable {built : List (LocalProvider × Except Exc Unit)} {id : String}

theorem providers_enroll (provider : Provider) (self : LocalProviderFabric) :
    (self.enroll provider).providers = self.providers.put ProviderRegistry.kind provider := by
  rw [enroll, ProviderRegistry.register, registerEntry, if_neg]
  rintro ⟨-, hoverwrite⟩
  cases hoverwrite

/-- The providers that the events carry. -/
def announced (events : List ProviderEvent) : List Provider :=
  events.filterMap fun
    | .registered _ provider | .updated _ provider _ => some provider
    | .unregistered _ => none

/-- The entries of the registries. -/
def components (self : LocalProviderFabric) : LocalComponents where
  providers := self.providers.entries
  capabilities := self.capabilities.entries

theorem components_ensureCapability (self : LocalProviderFabric) (cap : Capability) :
    (self.ensureCapability cap).components = self.components.ensureCapability cap := by
  rw [LocalProviderFabric.ensureCapability, LocalComponents.ensureCapability]
  by_cases hpresent : (self.capabilities.entries.get? cap.capabilityId).isSome = true
  · rw [if_pos hpresent]
    exact (if_pos hpresent).symm
  · rw [if_neg hpresent, CapabilityRegistry.register, registerEntry, if_neg fun h => hpresent h.1]
    exact (if_neg hpresent).symm

theorem components_ensureCapabilities (caps : List Capability) (self : LocalProviderFabric) :
    (caps.foldl LocalProviderFabric.ensureCapability self).components
      = caps.foldl LocalComponents.ensureCapability self.components := by
  induction caps generalizing self with
  | nil => rfl
  | cons cap caps ih => rw [List.foldl_cons, List.foldl_cons, ih, components_ensureCapability]

theorem components_enroll (provider : Provider) (self : LocalProviderFabric) :
    (self.enroll provider).components = self.components.registerProvider provider := by
  rw [components, providers_enroll]
  rfl

/-- What the local node starts with is the fabric with its one provider. -/
theorem components_start (self : LocalProviderFabric) (initialized : Except Exc Unit) :
    (self.start [(LocalFilesystemProvider.new, initialized)]).components
      = self.components.startFabric initialized.isOk := by
  change (self.launch _).components = _
  rw [launch, components_enroll, components_enroll, ensureCapabilities,
    components_ensureCapabilities]
  cases initialized <;> rfl

end LocalProviderFabric

end Shyam
