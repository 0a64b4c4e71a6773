import Shyam.Core.Tracker

/-!
# The events of the tracker

The changes that the events of one component report are a chain from its first state to the recorded
one, and so are those of the ecosystem. A round that raises has published what it has recorded, and
no more.
-/

namespace Shyam

open Python Fallible Transition Changes

namespace Sovereign

namespace ReadinessTracker

/-! ### What the events report -/

def componentChange (component : String) : ReadinessEvent → Option (ComponentState × ComponentState)
  | .componentChanged name oldState newState _ =>
      if name = component then some (oldState, newState) else none
  | .ecosystemChanged _ _ _ => none

def ecosystemChange : ReadinessEvent → Option (EcosystemReadiness × EcosystemReadiness)
  | .componentChanged _ _ _ _ => none
  | .ecosystemChanged oldReadiness newReadiness _ => some (oldReadiness, newReadiness)

def componentChanges (component : String) (published : List ReadinessEvent) :
    List (ComponentState × ComponentState) := published.filterMap (componentChange component)

def ecosystemChanges (published : List ReadinessEvent) :
    List (EcosystemReadiness × EcosystemReadiness) :=
  published.filterMap ecosystemChange

/-- Each component but the node, and the ecosystem, went from its start to where it is by the
changes that were published; what is not tracked has published none. -/
structure EventsChained (tracker : ReadinessTracker) : Prop where
  zarya : tracker.zaryaEnabled = true → (tracker.components.get? "zarya").isSome = true
  flux : tracker.fluxEnabled = true → (tracker.components.get? "flux").isSome = true
  component : ∀ name observation, name ≠ "node" → tracker.components.get? name = some observation →
    Chained .starting (componentChanges name tracker.published) observation.state
  untracked : ∀ name, tracker.components.get? name = none →
    componentChanges name tracker.published = []
  ecosystem : Chained .starting (ecosystemChanges tracker.published) tracker.readiness

variable {self : ReadinessTracker} {component : String} {now : DateTime}
  {published : List ReadinessEvent}

theorem recordedState_of_get? {observation : Observation}
    (h : self.components.get? component = some observation) :
    self.recordedState component = observation.state := by
  rw [recordedState, h]

theorem componentChanges_append_self {oldState newState : ComponentState} {error : Option Fault} :
    componentChanges component
        (published ++ if oldState = newState then []
          else [.componentChanged component oldState newState error])
      = componentChanges component published ++ entry oldState newState := by
  rw [componentChanges, componentChanges, List.filterMap_append, entry]
  split_ifs
  · rfl
  · simp [componentChange]

theorem componentChanges_append_other {name : String} (hname : name ≠ component)
    {oldState newState : ComponentState} {error : Option Fault} :
    componentChanges component
        (published ++ if oldState = newState then []
          else [.componentChanged name oldState newState error])
      = componentChanges component published := by
  rw [componentChanges, componentChanges, List.filterMap_append]
  split_ifs
  · simp
  · simp [componentChange, hname]

theorem ecosystemChanges_append_component {oldState newState : ComponentState}
    {error : Option Fault} :
    ecosystemChanges
        (published ++ if oldState = newState then []
          else [.componentChanged component oldState newState error])
      = ecosystemChanges published := by
  rw [ecosystemChanges, ecosystemChanges, List.filterMap_append]
  split_ifs
  · simp
  · simp [ecosystemChange]

theorem componentChanges_append_ecosystem {oldReadiness newReadiness : EcosystemReadiness}
    {states : Dict ComponentState} :
    componentChanges component
        (published ++ if oldReadiness = newReadiness then []
          else [.ecosystemChanged oldReadiness newReadiness states])
      = componentChanges component published := by
  rw [componentChanges, componentChanges, List.filterMap_append]
  split_ifs
  · simp
  · simp [componentChange]

theorem ecosystemChanges_append_self {oldReadiness newReadiness : EcosystemReadiness}
    {states : Dict ComponentState} :
    ecosystemChanges
        (published ++ if oldReadiness = newReadiness then []
          else [.ecosystemChanged oldReadiness newReadiness states])
      = ecosystemChanges published ++ entry oldReadiness newReadiness := by
  rw [ecosystemChanges, ecosystemChanges, List.filterMap_append, entry]
  split_ifs
  · rfl
  · simp [ecosystemChange]

/-! ### One stage -/

theorem EventsChained.withRegistries (h : EventsChained self) (registries : Registries) :
    EventsChained { self with registries } :=
  ⟨h.zarya, h.flux, h.component, h.untracked, h.ecosystem⟩

theorem isSome_get?_set {observations : Dict Observation} {name : String}
    (observation : Observation) (h : (observations.get? name).isSome = true) :
    ((observations.set component observation).get? name).isSome = true := by
  rw [Dict.get?_set]
  split_ifs
  · rfl
  · exact h

/-- What is recorded is published. -/
theorem EventsChained.record (h : EventsChained self) (hnode : component ≠ "node")
    (htracked : (self.components.get? component).isSome = true) (now : DateTime)
    (snapshot : ComponentReadinessSnapshot) :
    EventsChained (after self (record component now (self.recordedState component) snapshot)) := by
  obtain ⟨before, hbefore⟩ := Option.isSome_iff_exists.mp htracked
  constructor
  case zarya => exact fun henabled => isSome_get?_set _ (h.zarya henabled)
  case flux => exact fun henabled => isSome_get?_set _ (h.flux henabled)
  case component =>
    intro name observation hname hget
    rw [after, ReadinessTracker.record, Dict.get?_set] at hget
    split_ifs at hget with hsame
    · cases hget
      rw [hsame, after, ReadinessTracker.record]
      dsimp only
      rw [componentChanges_append_self, recordedState_of_get? hbefore]
      exact (h.component component before hnode hbefore).enter snapshot.state
    · rw [after, ReadinessTracker.record]
      dsimp only
      rw [componentChanges_append_other (Ne.symm hsame)]
      exact h.component name observation hname hget
  case untracked =>
    intro name hget
    rw [after, ReadinessTracker.record, Dict.get?_set] at hget
    split_ifs at hget with hsame
    rw [after, ReadinessTracker.record]
    dsimp only
    rw [componentChanges_append_other (Ne.symm hsame)]
    exact h.untracked name hget
  case ecosystem =>
    rw [after, ReadinessTracker.record]
    dsimp only
    rw [ecosystemChanges_append_component]
    exact h.ecosystem

/-- An evaluation that raises has recorded nothing and published nothing. -/
theorem EventsChained.evaluate (h : EventsChained self) (hnode : component ≠ "node")
    (htracked : (self.components.get? component).isSome = true) (now : DateTime)
    (answers : ProviderAnswers) (metadata : Except Fault (Dict PyValue)) :
    EventsChained (after self (evaluate component now answers metadata)) := by
  obtain ⟨-, registries, hrecord⟩ | ⟨-, fault, registries, hraised⟩ :=
    evaluate_cases component now answers metadata self
  · rw [after, hrecord]
    exact (h.withRegistries registries).record hnode htracked now (answers.assess metadata)
  · rw [after, hraised]
    exact h.withRegistries registries

theorem EventsChained.evaluateEnabled (h : EventsChained self) {enabled : ReadinessTracker → Bool}
    (hnode : component ≠ "node")
    (htracked : enabled self = true → (self.components.get? component).isSome = true)
    (now : DateTime) (answers : ProviderAnswers) (metadata : Except Fault (Dict PyValue)) :
    EventsChained (after self (evaluateEnabled enabled component now answers metadata)) := by
  rw [after, ReadinessTracker.evaluateEnabled]
  split_ifs with henabled
  · exact h.evaluate hnode (htracked henabled) now answers metadata
  · exact h

theorem EventsChained.setNodeReady (h : EventsChained self) (now : DateTime) :
    EventsChained (self.setNodeReady now) := by
  constructor
  case zarya => exact fun henabled => isSome_get?_set _ (h.zarya henabled)
  case flux => exact fun henabled => isSome_get?_set _ (h.flux henabled)
  case component =>
    intro name observation hname hget
    rw [ReadinessTracker.setNodeReady, Dict.get?_set, if_neg hname] at hget
    exact h.component name observation hname hget
  case untracked =>
    intro name hget
    rw [ReadinessTracker.setNodeReady, Dict.get?_set] at hget
    split_ifs at hget
    exact h.untracked name hget
  case ecosystem => exact h.ecosystem

theorem EventsChained.meanwhile (h : EventsChained self) (nodeReady : Option DateTime) :
    EventsChained (after self (meanwhile nodeReady)) := by
  cases nodeReady with
  | none => exact h
  | some now => exact h.setNodeReady now

theorem EventsChained.evaluateEcosystemReadiness (h : EventsChained self) :
    EventsChained (after self evaluateEcosystemReadiness) := by
  constructor
  case zarya => exact h.zarya
  case flux => exact h.flux
  case component =>
    intro name observation hname hget
    rw [after, ReadinessTracker.evaluateEcosystemReadiness]
    dsimp only
    rw [componentChanges_append_ecosystem]
    exact h.component name observation hname hget
  case untracked =>
    intro name hget
    rw [after, ReadinessTracker.evaluateEcosystemReadiness]
    dsimp only
    rw [componentChanges_append_ecosystem]
    exact h.untracked name hget
  case ecosystem =>
    rw [after, ReadinessTracker.evaluateEcosystemReadiness]
    dsimp only
    rw [ecosystemChanges_append_self]
    exact h.ecosystem.enter self.ecosystemReadiness

/-! ### Rounds -/

theorem EventsChained.step (h : EventsChained self) (action : TrackerAction) :
    EventsChained (step self action) := by
  cases action with
  | setNodeReady now => exact h.setNodeReady now
  | poll round =>
      refine inOrder_invariant (fun stage hstage s hs => ?_) h
      simp only [List.mem_cons, List.not_mem_nil, or_false] at hstage
      obtain rfl | rfl | rfl | rfl | rfl := hstage
      · exact hs.evaluateEnabled (by decide) hs.zarya round.now round.zarya (.ok ∅)
      · exact hs.meanwhile round.nodeReadyAfterZarya
      · exact hs.evaluateEnabled (by decide) hs.flux round.now round.flux round.flux.fluxMetadata
      · exact hs.meanwhile round.nodeReadyAfterFlux
      · exact hs.evaluateEcosystemReadiness

theorem eventsChained_init
    (zaryaEnabled fluxEnabled hasProviderRegistry hasCapabilityRegistry : Bool)
    (registries : Registries) (now : DateTime) :
    EventsChained
      (init zaryaEnabled fluxEnabled hasProviderRegistry hasCapabilityRegistry registries now) := by
  constructor
  case zarya =>
    rintro rfl
    cases fluxEnabled
    · simp [init]
    · simp [init]
  case flux =>
    rintro rfl
    simp [init]
  case component =>
    intro name observation hname hget
    rw [init] at hget
    dsimp only at hget
    split_ifs at hget <;> simp only [Dict.get?_set] at hget <;> split_ifs at hget
      <;> cases hget <;> rfl
  case untracked => exact fun _ _ => rfl
  case ecosystem => rfl

/-- **The events.** However the providers behave, after any number of rounds the events of each
component and of the ecosystem lead from `STARTING` to the current state without a gap. -/
theorem events_chained (zaryaEnabled fluxEnabled hasProviderRegistry hasCapabilityRegistry : Bool)
    (registries : Registries) (now : DateTime) (actions : List TrackerAction) :
    Always step EventsChained
      (init zaryaEnabled fluxEnabled hasProviderRegistry hasCapabilityRegistry registries now)
        actions := by
  have hinit := eventsChained_init zaryaEnabled fluxEnabled hasProviderRegistry
    hasCapabilityRegistry registries now
  exact always_of_invariant (fun _ action h => h.step action) (fun _ h => h) actions hinit

end ReadinessTracker

end Sovereign

end Shyam
