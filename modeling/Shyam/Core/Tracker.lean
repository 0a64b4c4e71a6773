import Shyam.Core.Readiness
import Shyam.Lib.Changes

/-!
# The tracker and its events

A round of the tracker for providers that may answer or raise anything, with the events that it
publishes. An evaluation has its exception handler around the calls that find out the state; what
follows when a component has become ready is outside. Rounds exclude each other, but the node may
become ready while a round waits.
-/

namespace Shyam

open Python Fallible Changes

namespace Sovereign

/-- What the calls of a provider come to during one round; the answer to a call that is not made
does not matter. -/
structure ProviderAnswers where
  isConnected : Bool
  connect : Except Fault Bool
  refreshStatus : Except Fault AvailabilityStatus
  peerId : Except Fault (Option String) := .ok none
  descriptor : Except Fault Provider
  capabilityDefinitions : Except Fault (List Capability)

structure Observation extends ComponentReadinessSnapshot where
  component : String
  lastCheckedAt : DateTime

inductive ReadinessEvent where
  | componentChanged (component : String) (oldState newState : ComponentState)
      (error : Option Fault)
  | ecosystemChanged (oldReadiness newReadiness : EcosystemReadiness)
      (componentStates : Dict ComponentState)

/-- An enabled component has a provider. The event for the node itself is published by a task of its
own and left out. -/
structure ReadinessTracker where
  zaryaEnabled : Bool
  fluxEnabled : Bool
  hasProviderRegistry : Bool := true
  hasCapabilityRegistry : Bool := true
  registries : Registries := .empty
  components : Dict Observation
  readiness : EcosystemReadiness := .starting
  published : List ReadinessEvent := []

/-! ### One evaluation -/

namespace ProviderAnswers

/-- The state that the calls tell. -/
def reported (answers : ProviderAnswers) : Except Fault ComponentState :=
  if answers.isConnected then answers.refreshStatus.map stateOf
  else answers.connect.map fun connected => if connected then .ready else .unavailable

/-- Flux is asked for its peer id besides. -/
def fluxMetadata (answers : ProviderAnswers) : Except Fault (Dict PyValue) :=
  answers.peerId.map fun
    | some peerId => if peerId = "" then ∅ else (∅ : Dict PyValue).set "peer_id" (.str peerId)
    | none => ∅

/-- The `try` block, with its handler. -/
def assess (answers : ProviderAnswers) (metadata : Except Fault (Dict PyValue)) :
    ComponentReadinessSnapshot :=
  match answers.reported with
  | .error fault => { state := .failed, error := some fault }
  | .ok state =>
      match metadata with
      | .error fault => { state := .failed, error := some fault }
      | .ok metadata => { state := state, metadata := metadata }

end ProviderAnswers

namespace ReadinessTracker

def starting (component : String) (now : DateTime) : Observation where
  component := component
  lastCheckedAt := now

def init (zaryaEnabled fluxEnabled hasProviderRegistry hasCapabilityRegistry : Bool)
    (registries : Registries) (now : DateTime) : ReadinessTracker where
  zaryaEnabled := zaryaEnabled
  fluxEnabled := fluxEnabled
  hasProviderRegistry := hasProviderRegistry
  hasCapabilityRegistry := hasCapabilityRegistry
  registries := registries
  components :=
    let components := (∅ : Dict Observation).set "node" (starting "node" now)
    let components :=
      if zaryaEnabled then components.set "zarya" (starting "zarya" now) else components
    if fluxEnabled then components.set "flux" (starting "flux" now) else components

def recordedState (component : String) (self : ReadinessTracker) : ComponentState :=
  match self.components.get? component with
  | some observation => observation.state
  | none => .unknown

/-- Where there is a registry for it, a property of the provider is read and registered. -/
def registerRead {α : Type} (hasRegistry : ReadinessTracker → Bool) (answer : Except Fault α)
    (register : Registries → α → Registries) : Stage Fault ReadinessTracker := fun self =>
  if hasRegistry self then
    match answer with
    | .ok value => (.ok (), { self with registries := register self.registries value })
    | .error fault => (.error fault, self)
  else (.ok (), self)

def registerProvider (answers : ProviderAnswers) : Stage Fault ReadinessTracker :=
  registerRead hasProviderRegistry answers.descriptor Registries.registerProvider

def registerCapabilities (answers : ProviderAnswers) : Stage Fault ReadinessTracker :=
  registerRead hasCapabilityRegistry answers.capabilityDefinitions fun registries caps =>
    caps.foldl Registries.registerCapability registries

def onReady (answers : ProviderAnswers) : Stage Fault ReadinessTracker :=
  inOrder [registerProvider answers, registerCapabilities answers]

/-- The observation is written, and a change of the state published. -/
def record (component : String) (now : DateTime) (oldState : ComponentState)
    (snapshot : ComponentReadinessSnapshot) :
    Stage Fault ReadinessTracker := fun self =>
  (.ok (),
    { self with
      components := self.components.set component
        { snapshot with
          component := component
          lastCheckedAt := now }
      published := self.published
        ++ if oldState = snapshot.state then []
          else [.componentChanged component oldState snapshot.state snapshot.error] })

def evaluate (component : String) (now : DateTime) (answers : ProviderAnswers)
    (metadata : Except Fault (Dict PyValue)) : Stage Fault ReadinessTracker := fun self =>
  let oldState := self.recordedState component
  let snapshot := answers.assess metadata
  if snapshot.state = .ready ∧ oldState ≠ .ready then
    inOrder [onReady answers, record component now oldState snapshot] self
  else record component now oldState snapshot self

def evaluateEnabled (enabled : ReadinessTracker → Bool) (component : String) (now : DateTime)
    (answers : ProviderAnswers) (metadata : Except Fault (Dict PyValue)) :
    Stage Fault ReadinessTracker := fun self =>
  if enabled self then evaluate component now answers metadata self else (.ok (), self)

def evaluateZarya (now : DateTime) (answers : ProviderAnswers) : Stage Fault ReadinessTracker :=
  evaluateEnabled zaryaEnabled "zarya" now answers (.ok ∅)

def evaluateFlux (now : DateTime) (answers : ProviderAnswers) : Stage Fault ReadinessTracker :=
  evaluateEnabled fluxEnabled "flux" now answers answers.fluxMetadata

/-! ### The ecosystem -/

/-- The recorded states of the enabled components. -/
def activeStates (self : ReadinessTracker) : List ComponentState :=
  (if self.zaryaEnabled then (self.components.get? "zarya").toList.map (·.state) else [])
    ++ if self.fluxEnabled then (self.components.get? "flux").toList.map (·.state) else []

def ecosystemReadiness (self : ReadinessTracker) : EcosystemReadiness :=
  if self.recordedState "node" ≠ .ready then .starting
  else if self.activeStates.isEmpty then .ready
  else if self.activeStates.all (· = .ready) then .ready
  else if self.activeStates.any (· = .ready) then .degraded
  else if self.activeStates.any (· = .starting) then .starting
  else .degraded

def evaluateEcosystemReadiness : Stage Fault ReadinessTracker := fun self =>
  (.ok (),
    { self with
      readiness := self.ecosystemReadiness
      published := self.published
        ++ if self.readiness = self.ecosystemReadiness then []
          else [.ecosystemChanged self.readiness self.ecosystemReadiness
            (self.components.mapValues (·.state))] })

/-! ### Rounds -/

def setNodeReady (now : DateTime) (self : ReadinessTracker) : ReadinessTracker :=
  { self with
    components := self.components.set "node"
      { state := .ready
        component := "node"
        lastCheckedAt := now } }

/-- A round, and the calls of `set_node_ready` that come while it waits for the events of a
component. When it waits for the event of the ecosystem, the node is ready already. -/
structure PollRound where
  now : DateTime
  zarya : ProviderAnswers
  flux : ProviderAnswers
  nodeReadyAfterZarya : Option DateTime := none
  nodeReadyAfterFlux : Option DateTime := none

def meanwhile (nodeReady : Option DateTime) : Stage Fault ReadinessTracker := fun self =>
  match nodeReady with
  | some now => (.ok (), self.setNodeReady now)
  | none => (.ok (), self)

def pollAllComponents (round : PollRound) : Stage Fault ReadinessTracker :=
  inOrder [evaluateZarya round.now round.zarya, meanwhile round.nodeReadyAfterZarya,
    evaluateFlux round.now round.flux, meanwhile round.nodeReadyAfterFlux,
    evaluateEcosystemReadiness]

inductive TrackerAction where
  | setNodeReady (now : DateTime)
  | poll (round : PollRound)

/-- What a round leaves behind, whether it raises or not. -/
def step (self : ReadinessTracker) : TrackerAction → ReadinessTracker
  | .setNodeReady now => self.setNodeReady now
  | .poll round => after self (pollAllComponents round)

/-! ### What an evaluation does -/

variable {self : ReadinessTracker} {component : String} {now : DateTime} {answers : ProviderAnswers}
  {metadata : Except Fault (Dict PyValue)}

/-- What is read for the registries does not raise. -/
structure Registers (answers : ProviderAnswers) (tracker : ReadinessTracker) : Prop where
  descriptor : tracker.hasProviderRegistry = true → ∃ descriptor,
    answers.descriptor = .ok descriptor
  capabilities : tracker.hasCapabilityRegistry = true →
    ∃ caps, answers.capabilityDefinitions = .ok caps

section RegisterRead

variable {α : Type} {hasRegistry : ReadinessTracker → Bool} {register : Registries → α → Registries}

theorem registerRead_ok (h : hasRegistry self = true) {value : α} :
    registerRead hasRegistry (.ok value) register self
      = (.ok (), { self with registries := register self.registries value }) :=
  if_pos h

theorem registerRead_error (h : hasRegistry self = true) {fault : Fault} :
    registerRead hasRegistry (.error fault) register self = (.error fault, self) :=
  if_pos h

theorem registerRead_cases (hasRegistry : ReadinessTracker → Bool) (answer : Except Fault α)
    (register : Registries → α → Registries) (self : ReadinessTracker) :
    (∃ registries, registerRead hasRegistry answer register self
      = (.ok (), { self with registries })
        ∧ (hasRegistry self = true → ∃ value, answer = .ok value))
      ∨ ∃ fault, registerRead hasRegistry answer register self = (.error fault, self)
        ∧ hasRegistry self = true
        ∧ answer = .error fault := by
  by_cases hregistry : hasRegistry self = true
  · cases answer with
    | ok value => exact Or.inl ⟨_, registerRead_ok hregistry, fun _ => ⟨value, rfl⟩⟩
    | error fault => exact Or.inr ⟨fault, registerRead_error hregistry, hregistry, rfl⟩
  · exact Or.inl ⟨self.registries, if_neg hregistry, fun h => absurd h hregistry⟩

end RegisterRead

/-- The registries are all that changes. -/
theorem onReady_cases (answers : ProviderAnswers) (self : ReadinessTracker) :
    (Registers answers self
      ∧ ∃ registries, onReady answers self = (.ok (), { self with registries }))
      ∨ ¬Registers answers self
        ∧ ∃ fault registries, onReady answers self = (.error fault, { self with registries }) := by
  rw [onReady, registerProvider, registerCapabilities]
  obtain ⟨registries, hprovider, hdescriptor⟩ | ⟨fault, hprovider, hregistry, hraised⟩ :=
    registerRead_cases hasProviderRegistry answers.descriptor Registries.registerProvider self
  · simp only [inOrder, hprovider]
    obtain ⟨registries', hcaps, hdefinitions⟩ | ⟨fault, hcaps, hregistry, hraised⟩ :=
      registerRead_cases hasCapabilityRegistry answers.capabilityDefinitions
        (fun registries caps => caps.foldl Registries.registerCapability registries)
          { self with registries }
    · rw [hcaps]
      exact Or.inl ⟨⟨hdescriptor, hdefinitions⟩, registries', rfl⟩
    · rw [hcaps]
      refine Or.inr ⟨fun h => ?_, fault, registries, rfl⟩
      obtain ⟨caps, hok⟩ := h.capabilities hregistry
      rw [hraised] at hok
      cases hok
  · simp only [inOrder, hprovider]
    refine Or.inr ⟨fun h => ?_, fault, self.registries, rfl⟩
    obtain ⟨descriptor, hok⟩ := h.descriptor hregistry
    rw [hraised] at hok
    cases hok

/-- The component becomes ready, by what its provider tells and what was recorded. -/
def BecomesReady (component : String) (answers : ProviderAnswers)
    (metadata : Except Fault (Dict PyValue)) (self : ReadinessTracker) : Prop :=
  (answers.assess metadata).state = .ready ∧ self.recordedState component ≠ .ready

/-- **The evaluation rule.** The new observation is recorded, or the registration of what has become
ready raises and nothing but the registries has changed. -/
theorem evaluate_cases (component : String) (now : DateTime) (answers : ProviderAnswers)
    (metadata : Except Fault (Dict PyValue)) (self : ReadinessTracker) :
    ((BecomesReady component answers metadata self → Registers answers self)
        ∧ ∃ registries, evaluate component now answers metadata self
          = record component now (self.recordedState component) (answers.assess metadata)
            { self with registries })
      ∨ (BecomesReady component answers metadata self ∧ ¬Registers answers self)
        ∧ ∃ fault registries, evaluate component now answers metadata self
          = (.error fault, { self with registries }) := by
  rw [evaluate]
  by_cases hready : BecomesReady component answers metadata self
  · rw [BecomesReady] at hready
    rw [if_pos hready, inOrder]
    obtain ⟨hregisters, registries, honReady⟩ | ⟨hnot, fault, registries, honReady⟩ :=
      onReady_cases answers self
    · rw [honReady]
      refine Or.inl ⟨fun _ => hregisters, registries, ?_⟩
      exact inOrder_singleton _ _
    · rw [honReady]
      exact Or.inr ⟨⟨hready, hnot⟩, fault, registries, rfl⟩
  · refine Or.inl ⟨fun h => absurd h hready, self.registries, ?_⟩
    exact if_neg hready

end ReadinessTracker

end Sovereign

end Shyam
