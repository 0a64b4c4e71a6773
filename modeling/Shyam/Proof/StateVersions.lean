import Shyam.Context.Reads

/-!
# State versions

Every call that changes what the store shows makes a new version, except a step that gives tracked
work its first target. A version then stands for one state as long as such a step, or a made-up
snapshot of the ecosystem, does not come after the version was read.
-/

namespace Shyam

open Python Transition

/-! ### What a call does to the version -/

/-- The event gives a work item its first target. -/
def ContextHandler.FirstTarget (store : EcosystemStateStore) : ContextHandler → EventBody → Prop
  | .onStepStarted, .workflow ⟨workflowId, _, .stepStarted _ _ (some _)⟩ =>
      ∃ existing, store.activeWork.get? workflowId = some existing ∧ existing.targetNodeId = none
  | _, _ => False

theorem EcosystemStateStore.onStepStarted_eq_self {store : EcosystemStateStore}
    {workflowId : String} {target : NavigationCandidate}
    (h : ¬∃ existing, store.activeWork.get? workflowId = some existing
      ∧ existing.targetNodeId = none) : store.onStepStarted workflowId (some target) = store := by
  rw [onStepStarted]
  split
  · rename_i existing hexisting
    exact if_neg fun htarget => h ⟨existing, hexisting, htarget⟩
  · rfl

theorem EcosystemStateStore.version_onStepStarted (store : EcosystemStateStore)
    (workflowId : String) (target : Option NavigationCandidate) :
    (store.onStepStarted workflowId target).version = store.version := by
  cases target with
  | none => rfl
  | some target =>
      rw [onStepStarted]
      split
      · split_ifs <;> rfl
      · rfl

/-- An event leaves the store as it is, makes a new version, or gives a work item its first
target. -/
theorem ContextHandler.handle_cases (store : EcosystemStateStore) (timestamp : DateTime)
    (handler : ContextHandler) (body : EventBody) :
    handler.handle store timestamp body = store
      ∨ (handler.handle store timestamp body).version = store.version + 1
      ∨ (handler.FirstTarget store body
        ∧ (handler.handle store timestamp body).version = store.version) := by
  rw [handle.eq_def]
  split
  case h_5 workflowId workflowName stepId capability target =>
      cases target with
      | none => exact Or.inl rfl
      | some target =>
          by_cases hfirst : ∃ existing, store.activeWork.get? workflowId = some existing
              ∧ existing.targetNodeId = none
          · exact Or.inr (Or.inr ⟨hfirst, store.version_onStepStarted workflowId (some target)⟩)
          · exact Or.inl (EcosystemStateStore.onStepStarted_eq_self hfirst)
  case h_10 => exact Or.inl rfl
  all_goals exact Or.inr (Or.inl rfl)

namespace StoreReads

variable {w : StoreReads}

/-- A first target, or a made-up snapshot of another time, comes only to a
version that was not read. -/
def Fresh (w : StoreReads) : Call → Prop
  | .updateDiscovery _ _ => True
  | .handle handler event => handler.FirstTarget w.store event.body →
      ∀ r ∈ w.reads, r.state.version ≠ w.store.version
  | .getState now => w.taken = none →
      ∀ r ∈ w.reads, r.state.version = w.store.version → r.timestamp = now

/-! ### Versions never decrease -/

structure Monotone (w : StoreReads) : Prop where
  bounded : ∀ r ∈ w.reads, r.state.version ≤ w.store.version
  ordered : w.reads.Pairwise fun r r' => r.state.version ≤ r'.state.version

theorem version_le_handle (store : EcosystemStateStore) (timestamp : DateTime)
    (handler : ContextHandler) (body : EventBody) :
    store.version ≤ (handler.handle store timestamp body).version := by
  obtain h | h | ⟨-, h⟩ := handler.handle_cases store timestamp body
  · exact (congrArg EcosystemStateStore.version h).ge
  · omega
  · exact h.ge

theorem Monotone.step (h : Monotone w) (call : Call) : Monotone (w.step call) := by
  cases call with
  | updateDiscovery timestamp snapshot =>
      exact ⟨fun r hr => (h.bounded r hr).trans (Nat.le_succ w.store.version), h.ordered⟩
  | handle handler event =>
      have hle := version_le_handle w.store event.timestamp handler event.body
      exact ⟨fun r hr => (h.bounded r hr).trans hle, h.ordered⟩
  | getState now =>
      constructor
      · intro r hr
        rcases List.mem_append.mp hr with hr | hr
        · exact h.bounded r hr
        · rw [List.mem_singleton.mp hr]
          exact le_rfl
      · apply List.pairwise_append.mpr
        refine ⟨h.ordered, List.pairwise_singleton _ _, fun r hr r' hr' => ?_⟩
        rw [List.mem_singleton.mp hr']
        exact h.bounded r hr

theorem monotone_run (maxActivity : ℕ) (calls : List Call) :
    Monotone (run StoreReads.step (start maxActivity) calls) :=
  run_of_invariant (fun _ call h => h.step call) calls ⟨by simp [start], List.Pairwise.nil⟩

/-! ### A version stands for one state -/

/-- What was read of the current version is what the store still shows. -/
structure Identified (w : StoreReads) : Prop where
  monotone : Monotone w
  current : ∀ r ∈ w.reads, r.state.version = w.store.version →
    r.state = w.store.getState ∧ ∀ timestamp, w.taken = some timestamp → r.timestamp = timestamp
  equal : w.reads.Pairwise fun r r' => r.state.version = r'.state.version → r = r'

/-- A version that nobody has read says nothing yet. -/
theorem Identified.of_version_lt (h : Identified w) (w' : StoreReads) (hreads : w'.reads = w.reads)
    (hnew : ∀ r ∈ w.reads, r.state.version < w'.store.version) : Identified w' where
  monotone := ⟨fun r hr => (hnew r (hreads ▸ hr)).le, hreads ▸ h.monotone.ordered⟩
  current r hr hversion := absurd hversion (hnew r (hreads ▸ hr)).ne
  equal := hreads ▸ h.equal

theorem Identified.handle (h : Identified w) {handler : ContextHandler} {event : BusEvent}
    (hfresh : Fresh w (.handle handler event)) : Identified (w.step (.handle handler event)) := by
  obtain hsame | hbump | ⟨hfirst, hversion⟩ :=
    handler.handle_cases w.store event.timestamp event.body
  · have hstep : w.step (.handle handler event) = w := by
      rw [step, hsame]
    rw [hstep]
    exact h
  · apply h.of_version_lt (w.step (.handle handler event)) rfl
    intro r hr
    change r.state.version < (handler.handle w.store event.timestamp event.body).version
    have hle := h.monotone.bounded r hr
    omega
  · apply h.of_version_lt (w.step (.handle handler event)) rfl
    intro r hr
    change r.state.version < (handler.handle w.store event.timestamp event.body).version
    have hle := h.monotone.bounded r hr
    have hne := hfresh hfirst r hr
    omega

theorem Identified.read (h : Identified w) {now : DateTime} (hfresh : Fresh w (.getState now)) :
    ∀ r ∈ w.reads, r.state.version = w.store.version → r = w.read now := by
  intro r hr hversion
  obtain ⟨hstate, htaken⟩ := h.current r hr hversion
  have htime : r.timestamp = w.taken.getD now := by
    cases hkept : w.taken with
    | none => exact hfresh hkept r hr hversion
    | some timestamp => exact htaken timestamp hkept
  calc
    r = ⟨r.state, r.timestamp⟩ := rfl
    _ = w.read now := by rw [hstate, htime, StoreReads.read]

theorem Identified.step (h : Identified w) {call : Call} (hfresh : Fresh w call) :
    Identified (w.step call) := by
  cases call with
  | updateDiscovery timestamp snapshot =>
      apply h.of_version_lt (w.step (.updateDiscovery timestamp snapshot)) rfl
      intro r hr
      exact Nat.lt_succ_of_le (h.monotone.bounded r hr)
  | handle handler event => exact h.handle hfresh
  | getState now =>
      have hread := h.read hfresh
      refine ⟨h.monotone.step (.getState now), fun r hr hversion => ?_, ?_⟩
      · rcases List.mem_append.mp hr with hr | hr
        · exact h.current r hr hversion
        · rw [List.mem_singleton.mp hr]
          refine ⟨rfl, fun timestamp htaken => ?_⟩
          rw [StoreReads.read, show w.taken = some timestamp from htaken]
          rfl
      · apply List.pairwise_append.mpr
        refine ⟨h.equal, List.pairwise_singleton _ _, fun r hr r' hr' hversion => ?_⟩
        rw [List.mem_singleton.mp hr'] at hversion ⊢
        exact hread r hr hversion

/-- **Versions.** In every sequence of calls the version that is read never decreases. Two reads of
one version are equal whenever no first target, and no made-up snapshot of another time, came after
a read of the version it came to. -/
theorem version_identifies_state (maxActivity : ℕ) (calls : List Call) :
    let w := run StoreReads.step (start maxActivity) calls
    (w.reads.Pairwise fun r r' => r.state.version ≤ r'.state.version)
      ∧ (Along StoreReads.step Fresh (start maxActivity) calls →
        w.reads.Pairwise fun r r' => r.state.version = r'.state.version → r = r') := by
  refine ⟨(monotone_run maxActivity calls).ordered, fun hrun => ?_⟩
  have hstart : Identified (start maxActivity) :=
    ⟨monotone_run maxActivity [], by simp [start], List.Pairwise.nil⟩
  exact (hrun.invariant (fun _ _ h hfresh => h.step hfresh) hstart).equal

/-- A workflow of one step starts, and its step resolves to the laptop; the state is read before the
step starts, and `late` decides whether also after it. -/
def targetCalls (late : Bool) : List Call :=
  [.updateDiscovery .epoch ⟨"desk", ∅⟩,
    .handle .onWorkflowStarted ⟨.epoch, .workflow ⟨"wf-1", "copy", .started 1⟩⟩]
    ++ (if late then [.getState .epoch] else [])
    ++ [.handle .onStepStarted ⟨.epoch, .workflow ⟨"wf-1", "copy",
        .stepStarted "step-1" "file.read" (some ⟨"laptop", "local.filesystem", ∅⟩)⟩⟩,
      .getState .epoch]

theorem version_identifies_state_readOnce :
    let w := run StoreReads.step (start 100) (targetCalls false)
    w.reads.Pairwise fun r r' => r.state.version = r'.state.version → r = r' := by
  apply (version_identifies_state 100 (targetCalls false)).2
  refine ⟨trivial, ?_, ?_, ?_, trivial⟩
  · intro hfirst
    exact hfirst.elim
  · intro _ r hr
    cases hr
  · intro htaken
    cases htaken

/-- One version, with and without a target. -/
theorem version_shows_two_states :
    ∃ r r', (run StoreReads.step (start 100) (targetCalls true)).reads = [r, r']
      ∧ r.state.version = r'.state.version
      ∧ r.state.activeWork.map ActiveWorkItem.targetNodeId = [none]
      ∧ r'.state.activeWork.map ActiveWorkItem.targetNodeId = [some "laptop"] :=
  ⟨_, _, rfl, rfl, rfl, rfl⟩

end StoreReads

end Shyam
