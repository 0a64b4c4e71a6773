import Shyam.Lib.Ledger
import Shyam.Navigation.Policy
import Shyam.Providers.Descriptors

/-!
# The registries of providers and capabilities

Both registries keep their entries by id and publish an event for each change. They differ in the
entries, the events and the errors.
-/

namespace Shyam

open Python Ledger

/-! ### Events -/

inductive ProviderEvent where
  | registered (providerId : String) (provider : Provider)
  | updated (providerId : String) (provider : Provider) (previousAvailability : Option String)
  | unregistered (providerId : String)

inductive CapabilityEvent where
  | registered (capabilityId : String) (capability : Capability)
  | updated (capabilityId : String) (capability : Capability) (previousAvailability : Option String)
  | unregistered (capabilityId : String)

/-! ### Registering and unregistering -/

/-- What a registry raises. -/
structure RegistryErrors where
  duplicate : String → Exc
  notFound : String → Exc

section

variable {α ε : Type} (kind : Kind α ε) (errors : RegistryErrors)

def registerEntry (entry : α) (overwrite : Bool) (self : Register α ε) :
    Except Exc Unit × Register α ε :=
  if (self.entries.get? (kind.name entry)).isSome = true ∧ overwrite = false then
    (.error (errors.duplicate (kind.name entry)), self)
  else (.ok (), self.put kind entry)

def unregisterEntry (id : String) (self : Register α ε) : Except Exc α × Register α ε :=
  match self.entries.get? id with
  | some entry => (.ok entry, self.remove kind id)
  | none => (.error (errors.notFound id), self)

end

abbrev ProviderRegistry := Register Provider ProviderEvent

namespace ProviderRegistry

def kind : Kind Provider ProviderEvent where
  name := Provider.providerId
  added provider := .registered provider.providerId provider
  replaced provider previous :=
    .updated provider.providerId provider (some previous.availability.value)
  removed := .unregistered

def errors : RegistryErrors where
  duplicate id :=
    ⟨"DuplicateProviderError",
      "Provider '" ++ id ++ "' is already registered. Set overwrite=True to update."⟩
  notFound id :=
    ⟨"ProviderNotFoundError", "Cannot unregister non-existent provider '" ++ id ++ "'."⟩

def register (provider : Provider) (overwrite : Bool) (self : ProviderRegistry) :
    Except Exc Unit × ProviderRegistry :=
  registerEntry kind errors provider overwrite self

def unregister (id : String) (self : ProviderRegistry) : Except Exc Provider × ProviderRegistry :=
  unregisterEntry kind errors id self

end ProviderRegistry

abbrev CapabilityRegistry := Register Capability CapabilityEvent

namespace CapabilityRegistry

def kind : Kind Capability CapabilityEvent where
  name := Capability.capabilityId
  added cap := .registered cap.capabilityId cap
  replaced cap previous := .updated cap.capabilityId cap (some previous.availability.value)
  removed := .unregistered

def errors : RegistryErrors where
  duplicate id :=
    ⟨"DuplicateCapabilityError",
      "Capability '" ++ id ++ "' is already registered. Set overwrite=True to update."⟩
  notFound id :=
    ⟨"CapabilityNotFoundError", "Cannot unregister non-existent capability '" ++ id ++ "'."⟩

def register (cap : Capability) (overwrite : Bool) (self : CapabilityRegistry) :
    Except Exc Unit × CapabilityRegistry :=
  registerEntry kind errors cap overwrite self

def unregister (id : String) (self : CapabilityRegistry) :
    Except Exc Capability × CapabilityRegistry :=
  unregisterEntry kind errors id self

end CapabilityRegistry

/-! ### The fabric of local providers -/

/-- A provider of this node: its descriptor and the capabilities that it declares. -/
structure LocalProvider where
  descriptor : Provider
  capabilityDefinitions : List Capability := []

/-- The two registries, which others write as well, and the providers that run. -/
structure LocalProviderFabric where
  capabilities : CapabilityRegistry := {}
  providers : ProviderRegistry := {}
  instances : Dict LocalProvider := ∅

namespace LocalProviderFabric

/-- `register(descriptor, overwrite=True)`, which raises nothing. -/
def enroll (provider : Provider) (self : LocalProviderFabric) : LocalProviderFabric :=
  { self with providers := (ProviderRegistry.register provider true self.providers).2 }

/-- `if not contains(...): register(...)`. -/
def ensureCapability (self : LocalProviderFabric) (cap : Capability) : LocalProviderFabric :=
  if (self.capabilities.entries.get? cap.capabilityId).isSome then self
  else { self with capabilities := (CapabilityRegistry.register cap false self.capabilities).2 }

/-- `_ensure_capabilities`. -/
def ensureCapabilities (prov : LocalProvider) (self : LocalProviderFabric) : LocalProviderFabric :=
  prov.capabilityDefinitions.foldl ensureCapability self

def enlist (prov : LocalProvider) (self : LocalProviderFabric) : LocalProviderFabric :=
  { self with instances := self.instances.set prov.descriptor.providerId prov }

/-- The descriptor after `initialize`. -/
def settled (prov : LocalProvider) (initialized : Except Exc Unit) : Provider :=
  { prov.descriptor with
    availability :=
      match initialized with
      | .ok () => .available
      | .error _ => .unavailable }

/-- The body of the loop of `start`, where `initialized` is what `initialize` comes to. -/
def launch (self : LocalProviderFabric) (built : LocalProvider × Except Exc Unit) :
    LocalProviderFabric :=
  let self := (self.enlist built.1).ensureCapabilities built.1
  (self.enroll built.1.descriptor).enroll (settled built.1 built.2)

/-- `start`, over the providers that are built. -/
def start (built : List (LocalProvider × Except Exc Unit)) (self : LocalProviderFabric) :
    LocalProviderFabric :=
  built.foldl launch self

/-- `stop`. What `shutdown` raises is logged. -/
def stop (self : LocalProviderFabric) : LocalProviderFabric := { self with instances := ∅ }

end LocalProviderFabric

/-- `LocalFilesystemProvider()`, the only one that is built unless others are injected. -/
def LocalFilesystemProvider.new : LocalProvider :=
  ⟨LocalFilesystemProvider.descriptor, LocalFilesystemProvider.capabilityDefinitions⟩

/-- One write to the registries or to the fabric. What the start of the fabric writes, and what
others write at the same time, are such steps in some order. -/
inductive FabricAction where
  | registerProvider (provider : Provider) (overwrite : Bool)
  | unregisterProvider (id : String)
  | registerCapability (cap : Capability) (overwrite : Bool)
  | unregisterCapability (id : String)
  | enlist (prov : LocalProvider)
  | ensureCapability (cap : Capability)
  | stop

namespace LocalProviderFabric

def step (self : LocalProviderFabric) : FabricAction → LocalProviderFabric
  | .registerProvider provider overwrite =>
      { self with providers := (ProviderRegistry.register provider overwrite self.providers).2 }
  | .unregisterProvider id =>
      { self with providers := (ProviderRegistry.unregister id self.providers).2 }
  | .registerCapability cap overwrite =>
      { self with capabilities := (CapabilityRegistry.register cap overwrite self.capabilities).2 }
  | .unregisterCapability id =>
      { self with capabilities := (CapabilityRegistry.unregister id self.capabilities).2 }
  | .enlist prov => self.enlist prov
  | .ensureCapability cap => self.ensureCapability cap
  | .stop => self.stop

/-- The writes of one round of the loop. -/
def launchActions (built : LocalProvider × Except Exc Unit) : List FabricAction :=
  .enlist built.1 :: built.1.capabilityDefinitions.map .ensureCapability
    ++ [.registerProvider built.1.descriptor true, .registerProvider (settled built.1 built.2) true]

end LocalProviderFabric

end Shyam
