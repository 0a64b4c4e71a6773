import Shyam.Core.Tracker

/-!
# Rounds that raise

A provider may fail in any call that finds out its state, and the round goes on. It does not when
the provider fails in what is read once it has become ready: the round ends there, with the other
component and the ecosystem as they were.
-/

namespace Shyam

open Python Fallible Transition

namespace Sovereign

namespace ReadinessTracker

/-! ### What a round is for -/

def enabledComponents (self : ReadinessTracker) : List String :=
  (if self.zaryaEnabled then ["zarya"] else []) ++ if self.fluxEnabled then ["flux"] else []

/-- The readiness of the ecosystem, by the state of the node and those of its components. -/
def readinessOf (node : ComponentState) (components : List ComponentState) : EcosystemReadiness :=
  if node ≠ .ready then .starting
  else if ∀ state ∈ components, state = .ready then .ready
  else if .ready ∈ components then .degraded
  else if .starting ∈ components then .starting
  else .degraded

/-- The round does not raise, it records a state for each enabled component, and the readiness of
the ecosystem is that of the recorded states. -/
structure RoundCompletes (round : PollRound) (tracker : ReadinessTracker) : Prop where
  passes : Passes tracker (pollAllComponents round)
  records : ∀ name ∈ tracker.enabledComponents,
    ∃ observation, (after tracker (pollAllComponents round)).components.get? name = some observation
      ∧ observation.lastCheckedAt = round.now
  readiness : (after tracker (pollAllComponents round)).readiness
    = readinessOf ((after tracker (pollAllComponents round)).recordedState "node")
      (tracker.enabledComponents.map fun name =>
        (after tracker (pollAllComponents round)).recordedState name)

/-- The provider is connected and available, or it gets connected. -/
def ComesUp (answers : ProviderAnswers) : Prop :=
  (answers.isConnected = false ∧ answers.connect = .ok true)
    ∨ answers.isConnected = true ∧ answers.refreshStatus = .ok .available

/-- Where a component becomes ready that was not, its descriptor and its
capabilities can be read. -/
structure RoundAdmitted (round : PollRound) (tracker : ReadinessTracker) : Prop where
  zarya : tracker.zaryaEnabled = true → ComesUp round.zarya →
    tracker.recordedState "zarya" ≠ .ready →
    Registers round.zarya tracker
  flux : tracker.fluxEnabled = true → ComesUp round.flux →
    (∃ peerId, round.flux.peerId = .ok peerId) →
    tracker.recordedState "flux" ≠ .ready → Registers round.flux tracker

variable {self s s' : ReadinessTracker} {name component : String} {round : PollRound}
  {answers : ProviderAnswers} {metadata : Except Fault (Dict PyValue)} {now : DateTime}

theorem reported_eq_ready_iff : answers.reported = .ok .ready ↔ ComesUp answers := by
  rw [ProviderAnswers.reported, ComesUp]
  cases answers.isConnected with
  | true =>
      cases answers.refreshStatus with
      | error fault => simp [Except.map]
      | ok status => cases status <;> simp [Except.map, stateOf]
  | false =>
      cases answers.connect with
      | error fault => simp [Except.map]
      | ok connected => cases connected <;> simp [Except.map]

theorem becomesReady_iff : BecomesReady component answers metadata self
    ↔ ComesUp answers ∧ (∃ fields, metadata = .ok fields)
      ∧ self.recordedState component ≠ .ready := by
  rw [BecomesReady, ← reported_eq_ready_iff, ← and_assoc, ProviderAnswers.assess]
  refine and_congr_left fun _ => ?_
  cases answers.reported with
  | error fault => simp
  | ok state =>
      cases metadata with
      | error fault => simp
      | ok fields => simp

theorem exists_fluxMetadata_iff :
    (∃ fields, answers.fluxMetadata = .ok fields) ↔ ∃ peerId, answers.peerId = .ok peerId := by
  rw [ProviderAnswers.fluxMetadata]
  cases answers.peerId with
  | error fault => simp [Except.map]
  | ok peerId => simp [Except.map]

/-! ### What a stage leaves alone -/

/-- The stage has not touched the settings and what is recorded of a component. -/
structure Keeps (name : String) (s s' : ReadinessTracker) : Prop where
  zaryaEnabled : s'.zaryaEnabled = s.zaryaEnabled
  fluxEnabled : s'.fluxEnabled = s.fluxEnabled
  hasProviderRegistry : s'.hasProviderRegistry = s.hasProviderRegistry
  hasCapabilityRegistry : s'.hasCapabilityRegistry = s.hasCapabilityRegistry
  observation : s'.components.get? name = s.components.get? name

theorem Keeps.trans {s'' : ReadinessTracker} (h : Keeps name s s')
    (h' : Keeps name s' s'') : Keeps name s s'' :=
  ⟨h'.zaryaEnabled.trans h.zaryaEnabled, h'.fluxEnabled.trans h.fluxEnabled,
    h'.hasProviderRegistry.trans h.hasProviderRegistry,
    h'.hasCapabilityRegistry.trans h.hasCapabilityRegistry, h'.observation.trans h.observation⟩

theorem Keeps.recordedState (h : Keeps name s s') :
    s'.recordedState name = s.recordedState name := by
  rw [ReadinessTracker.recordedState, ReadinessTracker.recordedState, h.observation]

theorem Keeps.enabledComponents (h : Keeps name s s') :
    s'.enabledComponents = s.enabledComponents := by
  rw [ReadinessTracker.enabledComponents, ReadinessTracker.enabledComponents,
    h.zaryaEnabled, h.fluxEnabled]

theorem Keeps.registers_iff (h : Keeps name s s') : Registers answers s' ↔ Registers answers s := by
  constructor
  · intro hregisters
    exact ⟨fun hp => hregisters.descriptor (h.hasProviderRegistry.trans hp),
      fun hc => hregisters.capabilities (h.hasCapabilityRegistry.trans hc)⟩
  · intro hregisters
    exact ⟨fun hp => hregisters.descriptor (h.hasProviderRegistry.symm.trans hp),
      fun hc => hregisters.capabilities (h.hasCapabilityRegistry.symm.trans hc)⟩

theorem keeps_record (hname : name ≠ component) (now : DateTime) (oldState : ComponentState)
    (snapshot : ComponentReadinessSnapshot) (s : ReadinessTracker) :
    Keeps name s (after s (record component now oldState snapshot)) := by
  refine ⟨rfl, rfl, rfl, rfl, ?_⟩
  rw [after, record, Dict.get?_set, if_neg hname]

theorem keeps_evaluate (hname : name ≠ component) (now : DateTime) (answers : ProviderAnswers)
    (metadata : Except Fault (Dict PyValue)) (s : ReadinessTracker) :
    Keeps name s (after s (evaluate component now answers metadata)) := by
  obtain ⟨-, registries, hrecord⟩ | ⟨-, fault, registries, hraised⟩ :=
    evaluate_cases component now answers metadata s
  · rw [after, hrecord]
    have hkeeps := keeps_record hname now (s.recordedState component) (answers.assess metadata)
      { s with registries }
    exact ⟨hkeeps.zaryaEnabled, hkeeps.fluxEnabled, hkeeps.hasProviderRegistry,
      hkeeps.hasCapabilityRegistry, hkeeps.observation⟩
  · rw [after, hraised]
    exact ⟨rfl, rfl, rfl, rfl, rfl⟩

theorem keeps_evaluateEnabled (enabled : ReadinessTracker → Bool)
    (hname : name ≠ component) (now : DateTime) (answers : ProviderAnswers)
    (metadata : Except Fault (Dict PyValue)) (s : ReadinessTracker) :
    Keeps name s (after s (evaluateEnabled enabled component now answers metadata)) := by
  rw [after, evaluateEnabled]
  split_ifs
  · exact keeps_evaluate hname now answers metadata s
  · exact ⟨rfl, rfl, rfl, rfl, rfl⟩

theorem keeps_evaluateZarya (hname : name ≠ "zarya") (now : DateTime) (answers : ProviderAnswers)
    (s : ReadinessTracker) : Keeps name s (after s (evaluateZarya now answers)) :=
  keeps_evaluateEnabled zaryaEnabled hname now answers (.ok ∅) s

theorem keeps_evaluateFlux (hname : name ≠ "flux") (now : DateTime) (answers : ProviderAnswers)
    (s : ReadinessTracker) : Keeps name s (after s (evaluateFlux now answers)) :=
  keeps_evaluateEnabled fluxEnabled hname now answers answers.fluxMetadata s

theorem keeps_meanwhile (hname : name ≠ "node") (nodeReady : Option DateTime)
    (s : ReadinessTracker) :
    Keeps name s (after s (meanwhile nodeReady)) := by
  cases nodeReady with
  | none => exact ⟨rfl, rfl, rfl, rfl, rfl⟩
  | some now =>
      refine ⟨rfl, rfl, rfl, rfl, ?_⟩
      rw [after, meanwhile, setNodeReady, Dict.get?_set, if_neg hname]

theorem keeps_evaluateEcosystemReadiness (name : String) (s : ReadinessTracker) :
    Keeps name s (after s evaluateEcosystemReadiness) := ⟨rfl, rfl, rfl, rfl, rfl⟩

theorem readiness_evaluate (component : String) (now : DateTime) (answers : ProviderAnswers)
    (metadata : Except Fault (Dict PyValue)) (s : ReadinessTracker) :
    (after s (evaluate component now answers metadata)).readiness = s.readiness := by
  obtain ⟨-, registries, hrecord⟩ | ⟨-, fault, registries, hraised⟩ :=
    evaluate_cases component now answers metadata s
  · rw [after, hrecord]
    rfl
  · rw [after, hraised]

/-! ### What passes -/

theorem passes_evaluate_iff : Passes s (evaluate component now answers metadata)
    ↔ (BecomesReady component answers metadata s → Registers answers s) := by
  obtain ⟨hregisters, registries, hrecord⟩ | ⟨⟨hready, hnot⟩, fault, registries, hraised⟩ :=
    evaluate_cases component now answers metadata s
  · refine iff_of_true ?_ hregisters
    rw [Passes, hrecord]
    rfl
  · refine iff_of_false (fun hpasses => ?_) fun h => hnot (h hready)
    rw [Passes, hraised] at hpasses
    cases hpasses

/-- What passes has recorded its observation. -/
theorem get?_evaluate (h : Passes s (evaluate component now answers metadata)) :
    ∃ observation, (after s (evaluate component now answers metadata)).components.get? component
      = some observation
      ∧ observation.lastCheckedAt = now := by
  obtain ⟨-, registries, hrecord⟩ | ⟨-, fault, registries, hraised⟩ :=
    evaluate_cases component now answers metadata s
  · rw [after, hrecord]
    refine ⟨{ answers.assess metadata with component := component, lastCheckedAt := now }, ?_, rfl⟩
    rw [record, Dict.get?_set, if_pos rfl]
  · rw [Passes, hraised] at h
    cases h

theorem passes_meanwhile (nodeReady : Option DateTime) (s : ReadinessTracker) :
    Passes s (meanwhile nodeReady) := by
  cases nodeReady with
  | none => rfl
  | some now => rfl

section Enabled

variable {enabled : ReadinessTracker → Bool}

theorem evaluateEnabled_of_enabled (henabled : enabled s = true) :
    evaluateEnabled enabled component now answers metadata s
      = evaluate component now answers metadata s :=
  if_pos henabled

theorem evaluateEnabled_of_disabled (hdisabled : ¬enabled s = true) :
    evaluateEnabled enabled component now answers metadata s = (.ok (), s) := if_neg hdisabled

theorem passes_evaluateEnabled_iff :
    Passes s (evaluateEnabled enabled component now answers metadata)
    ↔ (enabled s = true → BecomesReady component answers metadata s → Registers answers s) := by
  by_cases henabled : enabled s = true
  · rw [Passes, evaluateEnabled_of_enabled henabled, imp_iff_right henabled]
    exact passes_evaluate_iff
  · rw [Passes, evaluateEnabled_of_disabled henabled]
    exact iff_of_true rfl fun h => absurd h henabled

theorem get?_evaluateEnabled (h : Passes s (evaluateEnabled enabled component now answers metadata))
    (henabled : enabled s = true) : ∃ observation,
      (after s (evaluateEnabled enabled component now answers metadata)).components.get? component
        = some observation
        ∧ observation.lastCheckedAt = now := by
  rw [Passes, evaluateEnabled_of_enabled henabled] at h
  rw [after, evaluateEnabled_of_enabled henabled]
  exact get?_evaluate h

end Enabled

theorem passes_evaluateZarya_iff : Passes s (evaluateZarya now answers)
    ↔ (s.zaryaEnabled = true → ComesUp answers → s.recordedState "zarya" ≠ .ready →
      Registers answers s) := by
  rw [evaluateZarya, passes_evaluateEnabled_iff]
  simp [becomesReady_iff]

theorem passes_evaluateFlux_iff : Passes s (evaluateFlux now answers)
    ↔ (s.fluxEnabled = true → ComesUp answers → (∃ peerId, answers.peerId = .ok peerId) →
      s.recordedState "flux" ≠ .ready → Registers answers s) := by
  rw [evaluateFlux, passes_evaluateEnabled_iff]
  simp only [becomesReady_iff, exists_fluxMetadata_iff, and_imp]

/-- What Flux is evaluated in. -/
def beforeFlux (round : PollRound) (s : ReadinessTracker) : ReadinessTracker :=
  after (after s (evaluateZarya round.now round.zarya)) (meanwhile round.nodeReadyAfterZarya)

theorem keeps_beforeFlux (round : PollRound) (s : ReadinessTracker) :
    Keeps "flux" s (beforeFlux round s) :=
  (keeps_evaluateZarya (by decide) round.now round.zarya s).trans
    (keeps_meanwhile (by decide) round.nodeReadyAfterZarya _)

theorem passes_pollAllComponents_iff :
    Passes s (pollAllComponents round) ↔ RoundAdmitted round s := by
  have hkeeps := keeps_beforeFlux round s
  have hflux : Passes (beforeFlux round s) (evaluateFlux round.now round.flux) ↔ _ :=
    passes_evaluateFlux_iff
  rw [hkeeps.fluxEnabled, hkeeps.recordedState, hkeeps.registers_iff] at hflux
  rw [pollAllComponents, passes_inOrder_iff]
  simp only [along_cons, along_nil, passes_meanwhile, true_and, and_true]
  constructor
  · rintro ⟨hzarya, hpasses, -⟩
    exact ⟨passes_evaluateZarya_iff.mp hzarya, hflux.mp hpasses⟩
  · intro hadmitted
    exact ⟨passes_evaluateZarya_iff.mpr hadmitted.zarya, hflux.mpr hadmitted.flux, rfl⟩

/-! ### What a round that passes leaves behind -/

theorem recordedStates_eq (h : (s.components.get? name).isSome = true) :
    (s.components.get? name).toList.map (·.state) = [s.recordedState name] := by
  obtain ⟨observation, hget⟩ := Option.isSome_iff_exists.mp h
  rw [recordedState, hget]
  rfl

theorem activeStates_eq (h : ∀ name ∈ s.enabledComponents, (s.components.get? name).isSome = true) :
    s.activeStates = s.enabledComponents.map (s.recordedState ·) := by
  rw [enabledComponents] at h ⊢
  rw [activeStates, List.map_append]
  congr 1
  · split_ifs with henabled
    · exact recordedStates_eq (h "zarya" (by simp [henabled]))
    · rfl
  · split_ifs with henabled
    · exact recordedStates_eq (h "flux" (by simp [henabled]))
    · rfl

theorem ecosystemReadiness_eq
    (h : ∀ name ∈ s.enabledComponents, (s.components.get? name).isSome = true) :
    s.ecosystemReadiness
      = readinessOf (s.recordedState "node") (s.enabledComponents.map (s.recordedState ·)) := by
  rw [ecosystemReadiness, readinessOf, activeStates_eq h]
  generalize s.enabledComponents.map (s.recordedState ·) = states
  simp only [List.isEmpty_iff, List.all_eq_true, List.any_eq_true,
    decide_eq_true_eq, exists_eq_right]
  split_ifs <;> simp_all

/-- What the ecosystem is evaluated in. -/
def beforeEcosystem (round : PollRound) (s : ReadinessTracker) : ReadinessTracker :=
  after (after (beforeFlux round s) (evaluateFlux round.now round.flux))
    (meanwhile round.nodeReadyAfterFlux)

theorem keeps_beforeEcosystem (hname : name ∉ ["zarya", "flux", "node"]) (round : PollRound)
    (s : ReadinessTracker) :
    Keeps name s (beforeEcosystem round s) := by
  simp only [List.mem_cons, List.not_mem_nil, or_false, not_or] at hname
  obtain ⟨hzarya, hflux, hnode⟩ := hname
  exact ((keeps_evaluateZarya hzarya round.now round.zarya s).trans
    (keeps_meanwhile hnode round.nodeReadyAfterZarya _)).trans
    ((keeps_evaluateFlux hflux round.now round.flux _).trans
      (keeps_meanwhile hnode round.nodeReadyAfterFlux _))

/-- All that is enabled has been recorded by then. -/
theorem get?_beforeEcosystem (h : Passes s (pollAllComponents round))
    (hname : name ∈ s.enabledComponents) :
    ∃ observation, (beforeEcosystem round s).components.get? name = some observation
      ∧ observation.lastCheckedAt = round.now := by
  rw [pollAllComponents, passes_inOrder_iff] at h
  simp only [along_cons, along_nil] at h
  obtain ⟨hzarya, -, hflux, -, -, -⟩ := h
  rw [enabledComponents, List.mem_append, List.mem_ite_nil_right, List.mem_singleton,
    List.mem_ite_nil_right, List.mem_singleton] at hname
  rcases hname with ⟨henabled, rfl⟩ | ⟨henabled, rfl⟩
  · have hkept : Keeps "zarya" (after s (evaluateZarya round.now round.zarya))
      (beforeEcosystem round s) :=
      ((keeps_meanwhile (by decide) round.nodeReadyAfterZarya _).trans
        (keeps_evaluateFlux (by decide) round.now round.flux _)).trans
        (keeps_meanwhile (by decide) round.nodeReadyAfterFlux _)
    rw [hkept.observation]
    exact get?_evaluateEnabled hzarya henabled
  · have hkept : Keeps "flux" (after (beforeFlux round s) (evaluateFlux round.now round.flux))
        (beforeEcosystem round s) := keeps_meanwhile (by decide) round.nodeReadyAfterFlux _
    rw [hkept.observation]
    exact get?_evaluateEnabled hflux ((keeps_beforeFlux round s).fluxEnabled.trans henabled)

/-- A round that does not raise does everything else as well. -/
theorem roundCompletes_of_passes (h : Passes s (pollAllComponents round)) :
    RoundCompletes round s := by
  have hafter : after s (pollAllComponents round)
    = after (beforeEcosystem round s) evaluateEcosystemReadiness :=
    after_inOrder_of_passes h
  have hkeeps : Keeps "" s (beforeEcosystem round s) := keeps_beforeEcosystem (by decide) round s
  have henabled := hkeeps.enabledComponents
  constructor
  case passes => exact h
  case records =>
    intro name hname
    rw [hafter, (keeps_evaluateEcosystemReadiness name _).observation]
    exact get?_beforeEcosystem h hname
  case readiness =>
    rw [hafter]
    have hreadiness := ecosystemReadiness_eq (s := beforeEcosystem round s) fun name hname => by
      obtain ⟨observation, hget, -⟩ := get?_beforeEcosystem h (henabled ▸ hname)
      rw [hget]
      rfl
    rw [henabled] at hreadiness
    exact hreadiness

theorem roundCompletes_iff : RoundCompletes round s ↔ RoundAdmitted round s := by
  rw [← passes_pollAllComponents_iff]
  exact ⟨RoundCompletes.passes, roundCompletes_of_passes⟩

/-! ### Sequences of rounds -/

def Completes (self : ReadinessTracker) : TrackerAction → Prop
  | .setNodeReady _ => True
  | .poll round => RoundCompletes round self

def Admitted (self : ReadinessTracker) : TrackerAction → Prop
  | .setNodeReady _ => True
  | .poll round => RoundAdmitted round self

/-- **The rounds.** Whatever the providers do, every round completes exactly when in none of them
the registration of a component that has become ready raises. -/
theorem rounds_complete_iff (tracker : ReadinessTracker) (actions : List TrackerAction) :
    Along step Completes tracker actions ↔ Along step Admitted tracker actions := by
  refine along_iff_of_invariant (I := fun _ => True) (fun _ _ _ => trivial)
    (fun s action _ => ?_) trivial
  cases action with
  | setNodeReady now => exact Iff.rfl
  | poll round => exact roundCompletes_iff

/-! ### Before the node is ready -/

/-- The ecosystem is starting as long as the node is. -/
def NodeFirst (tracker : ReadinessTracker) : Prop :=
  tracker.recordedState "node" ≠ .ready → tracker.readiness = .starting

theorem NodeFirst.evaluate (h : NodeFirst s) (hcomponent : component ≠ "node") (now : DateTime)
    (answers : ProviderAnswers) (metadata : Except Fault (Dict PyValue)) :
    NodeFirst (after s (evaluate component now answers metadata)) := by
  intro hnode
  rw [(keeps_evaluate hcomponent.symm now answers metadata s).recordedState] at hnode
  rw [readiness_evaluate]
  exact h hnode

theorem NodeFirst.evaluateEnabled (h : NodeFirst s) (enabled : ReadinessTracker → Bool)
    (hcomponent : component ≠ "node") (now : DateTime) (answers : ProviderAnswers)
    (metadata : Except Fault (Dict PyValue)) :
    NodeFirst (after s (evaluateEnabled enabled component now answers metadata)) := by
  rw [after, ReadinessTracker.evaluateEnabled]
  split_ifs
  · exact h.evaluate hcomponent now answers metadata
  · exact h

theorem nodeFirst_setNodeReady (now : DateTime) (s : ReadinessTracker) :
    NodeFirst (s.setNodeReady now) := by
  intro hnode
  rw [recordedState, setNodeReady, Dict.get?_set, if_pos rfl] at hnode
  exact absurd rfl hnode

theorem nodeFirst_evaluateEcosystemReadiness (s : ReadinessTracker) :
    NodeFirst (after s evaluateEcosystemReadiness) := fun hnode => if_pos hnode

theorem NodeFirst.step (h : NodeFirst s) (action : TrackerAction) : NodeFirst (step s action) := by
  cases action with
  | setNodeReady now => exact nodeFirst_setNodeReady now s
  | poll round =>
      refine inOrder_invariant (fun stage hstage s hs => ?_) h
      have hmeanwhile : ∀ nodeReady, NodeFirst (after s (meanwhile nodeReady)) := by
        rintro (_ | now)
        · exact hs
        · exact nodeFirst_setNodeReady now s
      simp only [List.mem_cons, List.not_mem_nil, or_false] at hstage
      obtain rfl | rfl | rfl | rfl | rfl := hstage
      · exact hs.evaluateEnabled zaryaEnabled (by decide) round.now round.zarya (.ok ∅)
      · exact hmeanwhile round.nodeReadyAfterZarya
      · exact hs.evaluateEnabled fluxEnabled (by decide) round.now round.flux
          round.flux.fluxMetadata
      · exact hmeanwhile round.nodeReadyAfterFlux
      · exact nodeFirst_evaluateEcosystemReadiness s

/-- A round that waits for the event of the ecosystem finds the node ready. -/
theorem published_evaluateEcosystemReadiness (h : NodeFirst s)
    (hnode : s.recordedState "node" ≠ .ready) :
    (after s evaluateEcosystemReadiness).published = s.published := by
  have hsame : s.readiness = s.ecosystemReadiness := by
    rw [h hnode, ecosystemReadiness, if_pos hnode]
  rw [after, evaluateEcosystemReadiness]
  dsimp only
  rw [if_pos hsame, List.append_nil]

/-- Before the node is ready, no round publishes an event for the ecosystem. -/
theorem always_nodeFirst (zaryaEnabled fluxEnabled hasProviderRegistry hasCapabilityRegistry : Bool)
    (registries : Registries) (now : DateTime) (actions : List TrackerAction) :
    Always step (fun tracker => tracker.recordedState "node" ≠ .ready →
        (after tracker evaluateEcosystemReadiness).published = tracker.published)
      (init zaryaEnabled fluxEnabled hasProviderRegistry hasCapabilityRegistry registries now)
        actions := by
  have hinit : NodeFirst
      (init zaryaEnabled fluxEnabled hasProviderRegistry hasCapabilityRegistry registries now) :=
        fun _ => rfl
  exact always_of_invariant (fun _ action h => h.step action)
    (fun _ h => published_evaluateEcosystemReadiness h) actions hinit

/-! ### A descriptor that is refused -/

def betaDescriptor : Provider :=
  { disconnected ZaryaReport.providerIdZarya "Zarya" "Zarya instance" with
    version := "1.0-beta"
    availability := .available }

/-- The connection succeeds, and then the model refuses the version. -/
def betaAnswers : ProviderAnswers where
  isConnected := false
  connect := .ok true
  refreshStatus := .ok .available
  descriptor := makeProvider .ascii betaDescriptor
  capabilityDefinitions := .ok []

/-- Flux could be connected, but the round does not get there. -/
theorem round_raises_beta :
    ¬RoundCompletes
      { now := .epoch
        zarya := betaAnswers
        flux := { betaAnswers with descriptor := .ok betaDescriptor } }
      (init true true true true .empty .epoch) := by
  intro hcompletes
  have hrecorded : (init true true true true .empty .epoch).recordedState "zarya" ≠ .ready := by
    simp [init, recordedState, starting]
  have hregisters :=
    (passes_evaluateZarya_iff.mp (along_cons.mp (passes_inOrder_iff.mp hcompletes.passes)).1) rfl
    (Or.inl ⟨rfl, rfl⟩) hrecorded
  obtain ⟨descriptor, hdescriptor⟩ := hregisters.descriptor rfl
  have hversion : validateVersion .ascii betaDescriptor.version
      = .error "Version parts must be non-negative integers, got: '1.0-beta'" := by
    decide
  have herrors : betaDescriptor.errors .ascii ≠ [] := by
    rw [Provider.errors, hversion]
    exact List.append_ne_nil_of_right_ne_nil _ (List.cons_ne_nil _ _)
  have hraised : makeProvider .ascii betaDescriptor = .ok descriptor := hdescriptor
  rw [makeProvider] at hraised
  split at hraised
  · exact absurd ‹_› herrors
  · cases hraised

end ReadinessTracker

end Sovereign

end Shyam
