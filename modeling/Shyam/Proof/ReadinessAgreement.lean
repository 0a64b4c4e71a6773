import Shyam.Proof.ReadinessIsolation

/-!
# The tracker of the node

The components of a node are polled with the providers that the node has. Told what these providers
come to, the tracker does the same round: it raises where the node does, and it has the same states
and the same registries.
-/

namespace Shyam

open Python Fallible

namespace Sovereign

variable {σ γ : Type} {component : Component σ γ} {client : γ} {provider : σ}
  {peerId : σ → Option String}

namespace Component

/-- What the calls of a provider come to in one evaluation. -/
def answers (component : Component σ γ) (peerId : σ → Option String) (client : γ)
    (provider : σ) : ProviderAnswers :=
  let checked := (component.check client provider).2
  { isConnected := component.isConnected provider
    connect := (component.connect client provider).1
    refreshStatus := .ok (component.refreshStatus client provider).1
    peerId := .ok (peerId checked)
    descriptor := component.descriptor checked
    capabilityDefinitions := .ok (component.capabilityDefinitions checked) }

theorem assess_answers :
    (component.answers peerId client provider).assess
      (.ok (component.metadata (component.check client provider).2))
      = (component.check client provider).1 := by
  rw [ProviderAnswers.assess, ProviderAnswers.reported, answers, check]
  dsimp only
  split_ifs
  · rfl
  · rcases component.connect client provider with ⟨_ | connected, provider'⟩
    · rfl
    · rfl

end Component

namespace ReadinessTracker

/-- The tracker has recorded the snapshot. -/
def Observes (tracker : ReadinessTracker) (name : String)
    (snapshot : ComponentReadinessSnapshot) : Prop :=
  ∃ observation, tracker.components.get? name = some observation
    ∧ observation.toComponentReadinessSnapshot = snapshot

theorem Observes.recordedState {tracker : ReadinessTracker} {name : String}
    {snapshot : ComponentReadinessSnapshot} (h : tracker.Observes name snapshot) :
    tracker.recordedState name = snapshot.state := by
  obtain ⟨observation, hget, rfl⟩ := h
  rw [ReadinessTracker.recordedState, hget]

theorem Observes.of_keeps {s s' : ReadinessTracker} {name : String}
    {snapshot : ComponentReadinessSnapshot} (h : s.Observes name snapshot)
    (hkeeps : Keeps name s s') : s'.Observes name snapshot := by
  rw [Observes, hkeeps.observation]
  exact h

theorem observes_record (name : String) (now : DateTime) (oldState : ComponentState)
    (snapshot : ComponentReadinessSnapshot) (s : ReadinessTracker) :
    (after s (record name now oldState snapshot)).Observes name snapshot := by
  refine ⟨{ snapshot with component := name, lastCheckedAt := now }, ?_, rfl⟩
  rw [after, record, Dict.get?_set, if_pos rfl]

/-! ### One component -/

variable {tracker : ReadinessTracker} {node : NodeComponents} {name : String} {tracked : Tracked σ}

theorem onReady_answers (component : Component σ γ) (peerId : σ → Option String)
    (client : γ) (provider : σ) (hproviders : tracker.hasProviderRegistry = true)
    (hcapabilities : tracker.hasCapabilityRegistry = true) :
    onReady (component.answers peerId client provider) tracker
      = (((component.register (component.check client provider).2) tracker.registries).1,
          { tracker with
            registries :=
              ((component.register (component.check client provider).2)
                tracker.registries).2 }) := by
  have hdescriptor : (component.answers peerId client provider).descriptor
      = component.descriptor (component.check client provider).2 := rfl
  rw [onReady, inOrder, registerProvider, hdescriptor, Component.register]
  cases component.descriptor (component.check client provider).2 with
  | error fault => rw [registerRead_error hproviders]
  | ok descriptor =>
      have hnext : ({ tracker with
          registries := tracker.registries.registerProvider descriptor } :
            ReadinessTracker).hasCapabilityRegistry = true := hcapabilities
      rw [registerRead_ok hproviders]
      dsimp only
      rw [inOrder_singleton]
      exact registerRead_ok hnext

/-- An evaluation of the tracker is that of the component. -/
theorem evaluate_answers (component : Component σ γ) (peerId : σ → Option String)
    (client : γ) (now : DateTime) (hproviders : tracker.hasProviderRegistry = true)
    (hcapabilities : tracker.hasCapabilityRegistry = true)
    (hobserved : tracker.Observes name tracked.snapshot) :
    let evaluated := tracker.evaluate name now (component.answers peerId client tracked.provider)
      (.ok (component.metadata (component.check client tracked.provider).2))
    let result := component.evaluate client (tracked, tracker.registries)
    evaluated.1 = result.1 ∧ evaluated.2.registries = result.2.2
      ∧ evaluated.2.Observes name result.2.1.snapshot := by
  dsimp only
  rw [evaluate, Component.assess_answers, hobserved.recordedState, Component.evaluate]
  rcases hcheck : component.check client tracked.provider with ⟨snapshot, provider⟩
  have honReady := onReady_answers component peerId client tracked.provider hproviders hcapabilities
  rw [hcheck] at honReady
  dsimp only
  split_ifs with hready
  · rw [inOrder, honReady]
    rcases component.register provider tracker.registries with ⟨fault | ⟨⟩, registries⟩
    · exact ⟨rfl, rfl, hobserved⟩
    · dsimp only
      rw [inOrder_singleton]
      exact ⟨rfl, rfl, observes_record name now _ snapshot _⟩
  · exact ⟨rfl, rfl, observes_record name now _ snapshot tracker⟩

/-! ### The node -/

/-- The tracker shows what the node's components are in. -/
structure Agrees (tracker : ReadinessTracker) (node : NodeComponents) : Prop where
  zaryaEnabled : tracker.zaryaEnabled = node.zaryaEnabled
  fluxEnabled : tracker.fluxEnabled = node.fluxEnabled
  hasProviderRegistry : tracker.hasProviderRegistry = true
  hasCapabilityRegistry : tracker.hasCapabilityRegistry = true
  registries : tracker.registries = node.registries
  zarya : node.zaryaEnabled = true → tracker.Observes "zarya" node.zarya.snapshot
  flux : node.fluxEnabled = true → tracker.Observes "flux" node.flux.snapshot
  nodeState : tracker.recordedState "node" = node.node
  readiness : tracker.readiness = node.readiness

variable (db : CharacterDatabase)

/-- The round of the tracker that the answers of the gateways come to. -/
def roundOf (now : DateTime) (answers : GatewayAnswers) (node : NodeComponents) : PollRound where
  now := now
  zarya := (Sovereign.zarya db).answers (fun _ => none) answers.zarya node.zarya.provider
  flux := (Sovereign.flux db).answers FluxProvider.peerId answers.flux node.flux.provider

/-- What is left to show when one component has been evaluated. -/
theorem Agrees.evaluated {tracker' : ReadinessTracker} (h : Agrees tracker node)
    (hkeeps : Keeps "node" tracker tracker') (hreadiness : tracker'.readiness = tracker.readiness)
    {zarya : Tracked ZaryaProvider} {flux : Tracked FluxProvider} {registries : Registries}
    (hregistries : tracker'.registries = registries)
    (hzarya : node.zaryaEnabled = true → tracker'.Observes "zarya" zarya.snapshot)
    (hflux : node.fluxEnabled = true → tracker'.Observes "flux" flux.snapshot) :
    Agrees tracker' { node with zarya, flux, registries } where
  zaryaEnabled := hkeeps.zaryaEnabled.trans h.zaryaEnabled
  fluxEnabled := hkeeps.fluxEnabled.trans h.fluxEnabled
  hasProviderRegistry := hkeeps.hasProviderRegistry.trans h.hasProviderRegistry
  hasCapabilityRegistry := hkeeps.hasCapabilityRegistry.trans h.hasCapabilityRegistry
  registries := hregistries
  zarya := hzarya
  flux := hflux
  nodeState := hkeeps.recordedState.trans h.nodeState
  readiness := hreadiness.trans h.readiness

theorem Agrees.evaluateZarya (h : Agrees tracker node) (now : DateTime) (client : ZaryaClient) :
    let evaluated := tracker.evaluateZarya now
      ((Sovereign.zarya db).answers (fun _ => none) client node.zarya.provider)
    let result := node.evaluateZarya db client
    evaluated.1 = result.1 ∧ Agrees evaluated.2 result.2 ∧ result.2.flux = node.flux := by
  dsimp only
  by_cases henabled : node.zaryaEnabled = true
  · obtain ⟨houtcome, hregistries, hobserves⟩ :=
      evaluate_answers (Sovereign.zarya db) (fun _ => none) client now
      h.hasProviderRegistry h.hasCapabilityRegistry (h.zarya henabled)
    set answers := (Sovereign.zarya db).answers (fun _ => none) client node.zarya.provider
    have hkeeps : ∀ other, other ≠ "zarya" →
        Keeps other tracker (after tracker (evaluate "zarya" now answers (.ok ∅))) :=
      fun _ hother => keeps_evaluate hother now answers (.ok ∅) tracker
    rw [ReadinessTracker.evaluateZarya, evaluateEnabled_of_enabled (h.zaryaEnabled.trans henabled),
      NodeComponents.evaluateZarya, if_pos henabled, ← h.registries]
    refine ⟨houtcome, ?_, rfl⟩
    exact h.evaluated (hkeeps "node" (by decide)) (readiness_evaluate _ _ _ _ tracker) hregistries
      (fun _ => hobserves) fun hfluxEnabled =>
        (h.flux hfluxEnabled).of_keeps (hkeeps "flux" (by decide))
  · rw [ReadinessTracker.evaluateZarya, evaluateEnabled_of_disabled (h.zaryaEnabled ▸ henabled),
      NodeComponents.evaluateZarya, if_neg henabled]
    exact ⟨rfl, h, rfl⟩

theorem fluxMetadata_answers (client : FluxClient) (provider : FluxProvider) :
    ((Sovereign.flux db).answers FluxProvider.peerId client provider).fluxMetadata
      = .ok ((Sovereign.flux db).metadata ((Sovereign.flux db).check client provider).2) := by
  rw [ProviderAnswers.fluxMetadata, Component.answers]
  cases hpeerId : FluxProvider.peerId ((Sovereign.flux db).check client provider).2 with
  | none | some =>
      refine congrArg Except.ok ?_
      rw [Sovereign.flux] at hpeerId ⊢
      dsimp only
      rw [hpeerId]

theorem Agrees.evaluateFlux (h : Agrees tracker node) (now : DateTime) (client : FluxClient) :
    let evaluated := tracker.evaluateFlux now
      ((Sovereign.flux db).answers FluxProvider.peerId client node.flux.provider)
    let result := node.evaluateFlux db client
    evaluated.1 = result.1 ∧ Agrees evaluated.2 result.2 := by
  dsimp only
  by_cases henabled : node.fluxEnabled = true
  · obtain ⟨houtcome, hregistries, hobserves⟩ :=
      evaluate_answers (Sovereign.flux db) FluxProvider.peerId client now
      h.hasProviderRegistry h.hasCapabilityRegistry (h.flux henabled)
    rw [← fluxMetadata_answers] at houtcome hregistries hobserves
    set answers := (Sovereign.flux db).answers FluxProvider.peerId client node.flux.provider
    have hkeeps : ∀ other, other ≠ "flux" →
        Keeps other tracker (after tracker (evaluate "flux" now answers answers.fluxMetadata)) :=
      fun _ hother => keeps_evaluate hother now answers answers.fluxMetadata tracker
    rw [ReadinessTracker.evaluateFlux, evaluateEnabled_of_enabled (h.fluxEnabled.trans henabled),
      NodeComponents.evaluateFlux, if_pos henabled, ← h.registries]
    refine ⟨houtcome, ?_⟩
    exact h.evaluated (hkeeps "node" (by decide)) (readiness_evaluate _ _ _ _ tracker) hregistries
      (fun hzaryaEnabled => (h.zarya hzaryaEnabled).of_keeps (hkeeps "zarya" (by decide)))
        fun _ => hobserves
  · rw [ReadinessTracker.evaluateFlux, evaluateEnabled_of_disabled (h.fluxEnabled ▸ henabled),
      NodeComponents.evaluateFlux, if_neg henabled]
    exact ⟨rfl, h⟩

theorem Observes.states {snapshot : ComponentReadinessSnapshot}
    (h : tracker.Observes name snapshot) :
    (tracker.components.get? name).toList.map (·.state) = [snapshot.state] := by
  obtain ⟨observation, hget, rfl⟩ := h
  rw [hget]
  rfl

theorem Agrees.ecosystemReadiness (h : Agrees tracker node) :
    tracker.ecosystemReadiness = node.ecosystemReadiness := by
  have hstates : tracker.activeStates = node.activeStates := by
    rw [activeStates, NodeComponents.activeStates, h.zaryaEnabled, h.fluxEnabled]
    congr 1
    · split_ifs with henabled
      · exact (h.zarya henabled).states
      · rfl
    · split_ifs with henabled
      · exact (h.flux henabled).states
      · rfl
  rw [ReadinessTracker.ecosystemReadiness, NodeComponents.ecosystemReadiness, hstates, h.nodeState]
  cases node.activeStates with
  | nil => rfl
  | cons state states => rfl

theorem Agrees.evaluateEcosystemReadiness (h : Agrees tracker node) :
    Agrees (after tracker evaluateEcosystemReadiness)
      (after node NodeComponents.evaluateEcosystemReadiness) :=
  { h with readiness := h.ecosystemReadiness }

/-- **The tracker of the node.** A round of the node's components is the round of the tracker for
what their providers come to. -/
theorem Agrees.pollAllComponents (h : Agrees tracker node) (now : DateTime)
    (answers : GatewayAnswers) :
    (tracker.pollAllComponents (roundOf db now answers node)).1
      = (node.pollAllComponents db answers).1
      ∧ Agrees (after tracker (ReadinessTracker.pollAllComponents (roundOf db now answers node)))
        (after node (NodeComponents.pollAllComponents db answers)) := by
  obtain ⟨houtcome, hzarya, hflux⟩ := h.evaluateZarya db now answers.zarya
  obtain ⟨houtcome', hagrees⟩ := hzarya.evaluateFlux db now answers.flux
  rw [hflux] at houtcome' hagrees
  have hquiet : ∀ (stages : List (Stage Fault ReadinessTracker)) (s : ReadinessTracker),
      inOrder (meanwhile none :: stages) s = inOrder stages s := fun _ _ => rfl
  set tracker' := after tracker (ReadinessTracker.evaluateZarya now
    ((Sovereign.zarya db).answers (fun _ => none) answers.zarya node.zarya.provider)) with htracker'
  set node' := after node (NodeComponents.evaluateZarya db answers.zarya) with hnode'
  rw [ReadinessTracker.pollAllComponents, NodeComponents.pollAllComponents, roundOf]
  rcases passes_or_error tracker (ReadinessTracker.evaluateZarya now
    ((Sovereign.zarya db).answers (fun _ => none) answers.zarya node.zarya.provider))
      with hpasses | ⟨fault, hraised⟩
  · have hpasses' : Passes node (NodeComponents.evaluateZarya db answers.zarya) :=
      houtcome.symm.trans hpasses
    rw [after, after, inOrder_cons_of_passes hpasses, inOrder_cons_of_passes hpasses', hquiet,
      ← htracker', ← hnode']
    rcases passes_or_error tracker' (ReadinessTracker.evaluateFlux now
      ((Sovereign.flux db).answers FluxProvider.peerId answers.flux node.flux.provider))
        with hpasses | ⟨fault, hraised⟩
    · have hpasses' : Passes node' (NodeComponents.evaluateFlux db answers.flux) :=
        houtcome'.symm.trans hpasses
      rw [inOrder_cons_of_passes hpasses, inOrder_cons_of_passes hpasses', hquiet,
        inOrder_singleton, inOrder_singleton]
      exact ⟨rfl, hagrees.evaluateEcosystemReadiness⟩
    · have hraised' : (NodeComponents.evaluateFlux db answers.flux node').1 = .error fault :=
        houtcome'.symm.trans hraised
      rw [inOrder_cons_of_error hraised, inOrder_cons_of_error hraised']
      exact ⟨rfl, hagrees⟩
  · have hraised' := houtcome.symm.trans hraised
    rw [after, after, inOrder_cons_of_error hraised, inOrder_cons_of_error hraised']
    exact ⟨rfl, hzarya⟩

end ReadinessTracker

end Sovereign

end Shyam
