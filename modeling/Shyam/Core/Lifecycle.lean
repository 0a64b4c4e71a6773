import Shyam.Lib.DateTime
import Shyam.Lib.Stages

/-!
# The lifecycle of the runtime

The start and the stop of the runtime, around whatever its components do. A component may raise at
any of its stages, and the lock of the runtime runs the calls one after the other.
-/

namespace Shyam

open Python Fallible

inductive LifecycleState where
  | created
  | initializing
  | running
  | stopping
  | stopped
  | error
deriving DecidableEq, Repr

namespace LifecycleState

def validTransitions : LifecycleState → List LifecycleState
  | created => [initializing, error]
  | initializing => [running, error, stopping]
  | running => [stopping, error]
  | stopping => [stopped, error]
  | stopped => []
  | error => [stopped]

end LifecycleState

/-- `InvalidStateTransitionError`, or what a component raises. -/
inductive RuntimeFault (ε : Type) where
  | invalidTransition (current target : LifecycleState)
  | component (fault : ε)

def validateTransition {ε : Type} (current target : LifecycleState) :
    Except (RuntimeFault ε) Unit :=
  if target ∈ current.validTransitions then .ok () else .error (.invalidTransition current target)

/-- `visited` holds the statuses so far, the latest first; only proofs look at it. -/
structure RuntimeState where
  status : LifecycleState := .created
  startedAt : Option DateTime := none
  stoppedAt : Option DateTime := none
  errorDetail : Option String := none
  visited : List LifecycleState := [.created]

namespace RuntimeState

def enter (self : RuntimeState) (now : DateTime) (next : LifecycleState)
    (errorDetail : Option String) :
    RuntimeState where
  status := next
  startedAt := if next = .running then some now else self.startedAt
  stoppedAt := if next = .stopped then some now else self.stoppedAt
  errorDetail := if next = .error then errorDetail else self.errorDetail
  visited := next :: self.visited

def transitionTo {ε : Type} (self : RuntimeState) (now : DateTime) (next : LifecycleState)
    (errorDetail : Option String) : Except (RuntimeFault ε) RuntimeState := do
  validateTransition self.status next
  return self.enter now next errorDetail

end RuntimeState

/-- The runtime, with what its components are in. -/
structure Runtime (σ : Type) where
  state : RuntimeState := {}
  components : σ

namespace Runtime

variable {ε σ : Type}

/-- `str` gives the text of an exception, `now` the time at which a status is entered. -/
structure Call (ε : Type) where
  str : ε → String
  now : LifecycleState → DateTime

def moveTo (call : Call ε) (next : LifecycleState) (errorDetail : Option String) :
    Stage (RuntimeFault ε) (Runtime σ) := fun self =>
  match self.state.transitionTo (call.now next) next errorDetail with
  | .ok state => (.ok (), { self with state })
  | .error fault => (.error fault, self)

/-- A stage of the components. -/
def doing (stage : Stage ε σ) : Stage (RuntimeFault ε) (Runtime σ) := fun self =>
  match stage self.components with
  | (.ok (), components) => (.ok (), { self with components })
  | (.error fault, components) => (.error (.component fault), { self with components })

/-- The `try` block of `start`, whose handler moves to ERROR and raises again. -/
def guarded (call : Call ε) (initialization : Stage ε σ) :
    Stage (RuntimeFault ε) (Runtime σ) := fun self =>
  match initialization self.components with
  | (.ok (), components) => (.ok (), { self with components })
  | (.error fault, components) =>
      match moveTo call .error (some (call.str fault)) { self with components } with
      | (.ok (), self) => (.error (.component fault), self)
      | (.error invalid, self) => (.error invalid, self)

/-- The tracker starts after the `try` block. -/
def start (call : Call ε) (initialization startTracker : Stage ε σ) :
    Stage (RuntimeFault ε) (Runtime σ) :=
  fun self =>
    if self.state.status ≠ .created then
      (.error (.invalidTransition self.state.status .initializing), self)
    else
      inOrder [moveTo call .initializing none, guarded call initialization, doing startTracker,
        moveTo call .running none] self

/-- Each component is shut down under a handler of its own. -/
def stop (call : Call ε) (shutdown : List (Stage ε σ)) :
    Stage (RuntimeFault ε) (Runtime σ) := fun self =>
  if self.state.status = .stopped then (.ok (), self)
  else
    let self := { self with components := isolated shutdown self.components }
    if self.state.status ≠ .error then
      inOrder [moveTo call .stopping none, moveTo call .stopped none] self
    else moveTo call .stopped none self

/-- A call of the runtime, with what its components do meanwhile. -/
inductive Invocation (ε σ : Type) where
  | start (call : Call ε) (initialization startTracker : Stage ε σ)
  | stop (call : Call ε) (shutdown : List (Stage ε σ))

def Invocation.perform : Invocation ε σ → Stage (RuntimeFault ε) (Runtime σ)
  | .start call initialization startTracker => Runtime.start call initialization startTracker
  | .stop call shutdown => Runtime.stop call shutdown

def step (self : Runtime σ) (invocation : Invocation ε σ) : Runtime σ :=
  after self invocation.perform

end Runtime

end Shyam
