import Shyam.Core.Lifecycle
import Shyam.Lib.PyValue

/-!
# The lifecycle is closed

The status moves along the valid transitions only. A start may end in between, and a stop may raise,
each in exactly one situation.
-/

namespace Shyam

open Python Fallible Transition

namespace Runtime

variable {ε σ : Type} {runtime : Runtime σ} {call : Call ε} {next : LifecycleState}
  {detail : Option String} {initialization startTracker : Stage ε σ} {shutdown : List (Stage ε σ)}

/-! ### Single transitions -/

theorem moveTo_of_valid (h : next ∈ runtime.state.status.validTransitions) :
    moveTo call next detail runtime
      = (.ok (), { runtime with state := runtime.state.enter (call.now next) next detail }) := by
  have hvalid : (validateTransition runtime.state.status next : Except (RuntimeFault ε) Unit)
    = .ok () :=
    if_pos h
  rw [moveTo, RuntimeState.transitionTo, hvalid]
  rfl

theorem moveTo_of_invalid (h : next ∉ runtime.state.status.validTransitions) :
    moveTo call next detail runtime = (.error (.invalidTransition runtime.state.status next),
      runtime) := by
  have hvalid : (validateTransition runtime.state.status next : Except (RuntimeFault ε) Unit)
      = .error (.invalidTransition runtime.state.status next) := if_neg h
  rw [moveTo, RuntimeState.transitionTo, hvalid]
  rfl

/-- The status is the last one visited, and every change was valid. -/
structure History (runtime : Runtime σ) : Prop where
  current : runtime.state.visited.head? = some runtime.state.status
  chain : runtime.state.visited.IsChain fun target current => target ∈ current.validTransitions

theorem History.enter (h : History runtime) (hvalid : next ∈ runtime.state.status.validTransitions)
    (now : DateTime) (components : σ) :
    History { state := runtime.state.enter now next detail, components } where
  current := rfl
  chain := by
    obtain ⟨rest, hvisited⟩ := List.head?_eq_some_iff.mp h.current
    have hchain := h.chain
    rw [hvisited] at hchain
    rw [RuntimeState.enter, hvisited]
    exact hchain.cons_cons hvalid

theorem History.withComponents (h : History runtime) (components : σ) :
    History { runtime with components } :=
  ⟨h.current, h.chain⟩

theorem History.moveTo (h : History runtime) :
    History (after runtime (moveTo call next detail)) := by
  by_cases hvalid : next ∈ runtime.state.status.validTransitions
  · rw [after, moveTo_of_valid hvalid]
    exact h.enter hvalid _ _
  · rw [after, moveTo_of_invalid hvalid]
    exact h

theorem History.doing (h : History runtime) (stage : Stage ε σ) :
    History (after runtime (doing stage)) := by
  rw [after, Runtime.doing]
  split
  · exact h.withComponents _
  · exact h.withComponents _

theorem History.guarded (h : History runtime) :
    History (after runtime (guarded call initialization)) := by
  rw [after, Runtime.guarded]
  split
  · exact h.withComponents _
  · rename_i fault components hfault
    have hmoved : History
      (after { runtime with components } (Runtime.moveTo call .error (some (call.str fault)))) :=
      (h.withComponents components).moveTo
    rw [after] at hmoved
    split
    · rename_i hmove
      rwa [hmove] at hmoved
    · rename_i hmove
      rwa [hmove] at hmoved

theorem History.step (h : History runtime) (invocation : Invocation ε σ) :
    History (step runtime invocation) := by
  rw [Runtime.step, after]
  cases invocation with
  | start call initialization startTracker =>
      rw [Invocation.perform, start]
      split_ifs
      · exact h
      · apply inOrder_invariant _ h
        simp only [List.forall_mem_cons]
        exact ⟨fun _ hs => hs.moveTo, fun _ hs => hs.guarded, fun _ hs => hs.doing startTracker,
          fun _ hs => hs.moveTo, by simp⟩
  | stop call shutdown =>
      rw [Invocation.perform, stop]
      split_ifs
      · exact h
      · have hdown := h.withComponents (isolated shutdown runtime.components)
        dsimp only
        split_ifs
        · apply inOrder_invariant _ hdown
          simp only [List.forall_mem_cons]
          exact ⟨fun _ hs => hs.moveTo, fun _ hs => hs.moveTo, by simp⟩
        · exact hdown.moveTo

/-! ### What a call comes to -/

/-- The state in which the components are initialized. -/
def entered (call : Call ε) (runtime : Runtime σ) : RuntimeState :=
  runtime.state.enter (call.now .initializing) .initializing none

theorem moveTo_entered (h : next ∈ LifecycleState.initializing.validTransitions) (components : σ) :
    moveTo call next detail ⟨entered call runtime, components⟩
      = (.ok (), ⟨(entered call runtime).enter (call.now next) next detail, components⟩) :=
  moveTo_of_valid h

theorem start_eq_of_created (hcreated : runtime.state.status = .created) :
    start call initialization startTracker runtime
      = inOrder [guarded call initialization, doing startTracker, moveTo call .running none]
          ⟨entered call runtime, runtime.components⟩ := by
  have hvalid : LifecycleState.initializing ∈ runtime.state.status.validTransitions := by
    rw [hcreated]
    decide
  have hmove : moveTo call .initializing none runtime
      = (.ok (), ⟨entered call runtime, runtime.components⟩) := moveTo_of_valid hvalid
  rw [start, if_neg (not_not.mpr hcreated), inOrder, hmove]

theorem start_of_initialization_error (call : Call ε) (startTracker : Stage ε σ)
    (hcreated : runtime.state.status = .created) {fault : ε}
    (h : (initialization runtime.components).1 = .error fault) :
    (start call initialization startTracker runtime).1 = .error (.component fault)
      ∧ (start call initialization startTracker runtime).2.state.status = .error := by
  rcases hstage : initialization runtime.components with ⟨outcome, components⟩
  rw [hstage] at h
  cases h
  have hguarded : guarded call initialization ⟨entered call runtime, runtime.components⟩
      = (.error (.component fault),
        ⟨(entered call runtime).enter (call.now .error) .error (some (call.str fault)),
          components⟩) := by
    rw [guarded, hstage]
    dsimp only
    rw [moveTo_entered (by decide)]
  rw [start_eq_of_created hcreated, inOrder, hguarded]
  exact ⟨rfl, rfl⟩

theorem start_of_initialized (hcreated : runtime.state.status = .created)
    (h : (initialization runtime.components).1 = .ok ()) :
    start call initialization startTracker runtime
      = inOrder [doing startTracker, moveTo call .running none]
          ⟨entered call runtime, (initialization runtime.components).2⟩ := by
  rcases hstage : initialization runtime.components with ⟨outcome, components⟩
  rw [hstage] at h
  cases h
  have hguarded : guarded call initialization ⟨entered call runtime, runtime.components⟩
      = (.ok (), ⟨entered call runtime, components⟩) := by
    rw [guarded, hstage]
  rw [start_eq_of_created hcreated, inOrder, hguarded]

theorem start_of_tracker_error (call : Call ε) (hcreated : runtime.state.status = .created)
    (h : (initialization runtime.components).1 = .ok ()) {fault : ε}
    (hfault : (startTracker (initialization runtime.components).2).1 = .error fault) :
    (start call initialization startTracker runtime).1 = .error (.component fault)
      ∧ (start call initialization startTracker runtime).2.state.status = .initializing := by
  rcases hstage : startTracker (initialization runtime.components).2 with ⟨outcome, components⟩
  rw [hstage] at hfault
  cases hfault
  have hdoing : doing startTracker ⟨entered call runtime, (initialization runtime.components).2⟩
      = (.error (.component fault), ⟨entered call runtime, components⟩) := by
    rw [doing, hstage]
  rw [start_of_initialized hcreated h, inOrder, hdoing]
  exact ⟨rfl, rfl⟩

theorem start_of_started (hcreated : runtime.state.status = .created)
    (h : (initialization runtime.components).1 = .ok ())
    (htracker : (startTracker (initialization runtime.components).2).1 = .ok ()) :
    start call initialization startTracker runtime
      = (.ok (), ⟨(entered call runtime).enter (call.now .running) .running none,
          (startTracker (initialization runtime.components).2).2⟩) := by
  rcases hstage : startTracker (initialization runtime.components).2 with ⟨outcome, components⟩
  rw [hstage] at htracker
  cases htracker
  have hdoing : doing startTracker ⟨entered call runtime, (initialization runtime.components).2⟩
      = (.ok (), ⟨entered call runtime, components⟩) := by
    rw [doing, hstage]
  rw [start_of_initialized hcreated h, inOrder, hdoing]
  dsimp only
  rw [inOrder, moveTo_entered (by decide)]
  rfl

theorem start_eq_ok_iff (call : Call ε) (initialization startTracker : Stage ε σ)
    (hcreated : runtime.state.status = .created) :
    (start call initialization startTracker runtime).1 = .ok ()
      ↔ Passes runtime.components initialization
        ∧ Passes (after runtime.components initialization) startTracker := by
  rw [Passes, Passes, after]
  cases hinit : (initialization runtime.components).1 with
  | error fault =>
      rw [(start_of_initialization_error call startTracker hcreated hinit).1]
      exact iff_of_false (fun h => by cases h) fun h => by cases h.1
  | ok u =>
      cases htracker : (startTracker (initialization runtime.components).2).1 with
      | error fault =>
          rw [(start_of_tracker_error call hcreated hinit htracker).1]
          exact iff_of_false (fun h => by cases h) fun h => by cases h.2
      | ok u =>
          rw [start_of_started hcreated hinit htracker]
          exact iff_of_true rfl ⟨rfl, rfl⟩

theorem stop_of_stopped (hstopped : runtime.state.status = .stopped) :
    stop call shutdown runtime = (.ok (), runtime) := by
  rw [stop, if_pos hstopped]

/-- A runtime that has been started, with success or not, is stopped. -/
theorem stop_of_started (call : Call ε) (shutdown : List (Stage ε σ))
    (hstatus : runtime.state.status = .initializing ∨ runtime.state.status = .running
      ∨ runtime.state.status = .error) :
    (stop call shutdown runtime).1 = .ok ()
      ∧ (stop call shutdown runtime).2.state.status = .stopped := by
  have hlive : ∀ status : LifecycleState, status = .initializing ∨ status = .running →
      LifecycleState.stopping ∈ status.validTransitions ∧ status ≠ .stopped ∧ status ≠ .error := by
    intro status hlive
    cases hlive with
    | inl hinitializing => exact hinitializing ▸ by decide
    | inr hrunning => exact hrunning ▸ by decide
  rw [← or_assoc] at hstatus
  rcases hstatus with hstatus | herror
  · obtain ⟨hvalid, hnotStopped, hnotError⟩ := hlive _ hstatus
    have hstopping : ∀ components : σ, moveTo call .stopping none ⟨runtime.state, components⟩
        = (.ok (), ⟨runtime.state.enter (call.now .stopping) .stopping none, components⟩) :=
      fun components => moveTo_of_valid hvalid
    have hstop : ∀ components : σ,
        moveTo call .stopped none ⟨runtime.state.enter (call.now .stopping) .stopping none,
          components⟩ = (.ok (),
            ⟨(runtime.state.enter (call.now .stopping) .stopping none).enter (call.now .stopped)
              .stopped none, components⟩) :=
      fun components =>
        moveTo_of_valid
          (by decide : LifecycleState.stopped ∈ LifecycleState.stopping.validTransitions)
    rw [stop, if_neg hnotStopped]
    dsimp only
    rw [if_pos hnotError, inOrder, hstopping]
    dsimp only
    rw [inOrder, hstop]
    exact ⟨rfl, rfl⟩
  · have hstop : ∀ components : σ, moveTo call .stopped none ⟨runtime.state, components⟩
        = (.ok (), ⟨runtime.state.enter (call.now .stopped) .stopped none, components⟩) :=
      fun components => moveTo_of_valid (by rw [herror]; decide)
    rw [stop, if_neg (by rw [herror]; decide)]
    dsimp only
    rw [if_neg (not_not.mpr herror), hstop]
    exact ⟨rfl, rfl⟩

theorem stop_of_created (call : Call ε) (shutdown : List (Stage ε σ))
    (hcreated : runtime.state.status = .created) :
    (stop call shutdown runtime).1 = .error (.invalidTransition .created .stopping)
      ∧ (stop call shutdown runtime).2.state = runtime.state := by
  have hstopping : ∀ components : σ, moveTo call .stopping none ⟨runtime.state, components⟩
      = (.error (.invalidTransition runtime.state.status .stopping), ⟨runtime.state, components⟩) :=
    fun components => moveTo_of_invalid (by rw [hcreated]; decide)
  rw [stop, if_neg (by rw [hcreated]; decide)]
  dsimp only
  rw [if_pos (by rw [hcreated]; decide), inOrder, hstopping, hcreated]
  exact ⟨rfl, rfl⟩

/-! ### Runs of calls -/

/-- What the lifecycle promises of a call: an admitted start ends RUNNING or raises in ERROR, and a
stop returns in STOPPED and leaves a stopped runtime alone. -/
def Settles (runtime : Runtime σ) : Invocation ε σ → Prop
  | .start call initialization startTracker =>
      runtime.state.status = .created →
        ((start call initialization startTracker runtime).1 = .ok ()
            ∧ (start call initialization startTracker runtime).2.state.status = .running)
          ∨ ((∃ fault, (start call initialization startTracker runtime).1 = .error fault)
            ∧ (start call initialization startTracker runtime).2.state.status = .error)
  | .stop call shutdown =>
      (stop call shutdown runtime).1 = .ok ()
        ∧ (stop call shutdown runtime).2.state.status = .stopped
        ∧ (runtime.state.status = .stopped → (stop call shutdown runtime).2 = runtime)

/-- The tracker does not raise after the components were initialized, and nothing is stopped before
it was started. -/
def Orderly (runtime : Runtime σ) : Invocation ε σ → Prop
  | .start _ initialization startTracker =>
      runtime.state.status = .created → (initialization runtime.components).1 = .ok () →
        (startTracker (initialization runtime.components).2).1 = .ok ()
  | .stop _ _ => runtime.state.status ≠ .created

theorem settles_start_iff :
    Settles runtime (.start call initialization startTracker)
      ↔ Orderly runtime (.start call initialization startTracker) := by
  refine forall_congr' fun hcreated => ?_
  cases hinit : (initialization runtime.components).1 with
  | error fault =>
      obtain ⟨houtcome, hstatus⟩ := start_of_initialization_error call startTracker hcreated hinit
      exact iff_of_true (.inr ⟨⟨_, houtcome⟩, hstatus⟩) fun h => by cases h
  | ok u =>
      rw [forall_prop_of_true rfl]
      cases htracker : (startTracker (initialization runtime.components).2).1 with
      | ok u =>
          rw [start_of_started hcreated hinit htracker]
          exact iff_of_true (.inl ⟨rfl, rfl⟩) rfl
      | error fault =>
          obtain ⟨houtcome, hstatus⟩ := start_of_tracker_error call hcreated hinit htracker
          rw [houtcome, hstatus]
          refine iff_of_false ?_ fun h => by cases h
          rintro (⟨h, -⟩ | ⟨-, h⟩)
          · cases h
          · cases h

theorem settles_stop_iff (hstatus : runtime.state.status ≠ .stopping) :
    Settles runtime (.stop call shutdown) ↔ Orderly runtime (.stop call shutdown) := by
  have hcases : ∀ status : LifecycleState, status ≠ .stopping →
      status = .created ∨ status = .stopped ∨ status = .initializing ∨ status = .running
        ∨ status = .error := by
    intro status
    cases status <;> simp
  rw [Settles, Orderly]
  obtain hcreated | hstopped | hstarted := hcases _ hstatus
  · rw [(stop_of_created call shutdown hcreated).1]
    exact iff_of_false (fun h => by cases h.1) (not_not.mpr hcreated)
  · rw [stop_of_stopped hstopped]
    exact iff_of_true ⟨rfl, hstopped, fun _ => rfl⟩ (by rw [hstopped]; decide)
  · obtain ⟨houtcome, hend⟩ := stop_of_started call shutdown hstarted
    refine iff_of_true ⟨houtcome, hend, fun hstopped => ?_⟩ fun hcreated => ?_
    · rw [stop_of_stopped hstopped]
    · rw [hcreated] at hstarted
      simp at hstarted

/-- Between two calls. -/
structure Resting (runtime : Runtime σ) : Prop where
  history : History runtime
  status : runtime.state.status ≠ .stopping

theorem Resting.step (h : Resting runtime) (invocation : Invocation ε σ) :
    Resting (step runtime invocation) := by
  refine ⟨h.history.step invocation, ?_⟩
  cases invocation with
  | start call initialization startTracker =>
      change (start call initialization startTracker runtime).2.state.status ≠ .stopping
      by_cases hcreated : runtime.state.status = .created
      · cases hinit : (initialization runtime.components).1 with
        | error fault =>
            rw [(start_of_initialization_error call startTracker hcreated hinit).2]
            decide
        | ok u =>
            cases htracker : (startTracker (initialization runtime.components).2).1 with
            | ok u =>
                rw [start_of_started hcreated hinit htracker]
                exact LifecycleState.noConfusion
            | error fault =>
                rw [(start_of_tracker_error call hcreated hinit htracker).2]
                decide
      · rw [start, if_pos hcreated]
        exact h.status
  | stop call shutdown =>
      change (stop call shutdown runtime).2.state.status ≠ .stopping
      by_cases hcreated : runtime.state.status = .created
      · rw [(stop_of_created call shutdown hcreated).2]
        exact h.status
      · rw [((settles_stop_iff h.status).mpr hcreated).2.1]
        decide

/-- The runtime before any call. -/
def fresh (components : σ) : Runtime σ := { components }

theorem resting_fresh (components : σ) : Resting (fresh components) where
  history := ⟨rfl, .singleton _⟩
  status := LifecycleState.noConfusion

/-- **The lifecycle.** In every run of starts and stops, whatever raises, the status has changed
along valid transitions only; and every call settles as promised if and only if every call is
orderly. -/
theorem lifecycle_settles_iff (components : σ) (invocations : List (Invocation ε σ)) :
    History (run step (fresh components) invocations)
      ∧ (Along step Settles (fresh components) invocations
        ↔ Along step Orderly (fresh components) invocations) := by
  refine ⟨(run_of_invariant (fun _ i h => h.step i) invocations (resting_fresh components)).history,
    ?_⟩
  apply along_iff_of_invariant (I := Resting) (fun _ i h => h.step i) _ (resting_fresh components)
  intro runtime invocation h
  cases invocation with
  | start call initialization startTracker => exact settles_start_iff
  | stop call shutdown => exact settles_stop_iff h.status

/-! ### A stop that comes first -/

def quietCall : Call Exc where
  str := Exc.text
  now _ := .epoch

/-- A runtime that was never started cannot be stopped: the call raises, and the
runtime stays as it was. -/
theorem stop_before_start_raises :
    (stop quietCall [] (fresh ())).1 = .error (.invalidTransition .created .stopping)
      ∧ ¬∀ (components : Unit) (invocations : List (Invocation Exc Unit)),
        Along step Settles (fresh components) invocations := by
  have hraises := (stop_of_created quietCall [] (rfl : (fresh ()).state.status = .created)).1
  refine ⟨hraises, fun h => ?_⟩
  have hsettles := (along_cons.mp (h () [.stop quietCall []])).1
  rw [Settles, hraises] at hsettles
  cases hsettles.1

end Runtime

end Shyam
