import Shyam.Continuity.World
import Shyam.Surface.Coordinator

/-!
# Concurrent requests of the user

The coordinator beside the readiness tracker and the continuity service. Any number of requests may
be waiting for their continuity. The events of the tracker reach the coordinator later, in the order
in which they were published.
-/

namespace Shyam

open Python Interaction Sovereign

namespace Surface

variable {Snapshot : Type}

/-- An answer is kept with the continuity that it waited for. `raised` is what came out of
`handle_request`. -/
structure World (Snapshot : Type) where
  state : SurfaceState := .idle
  subscribed : Bool := false
  readiness : EcosystemReadiness := .starting
  events : List EcosystemReadiness := []
  continuity : Continuity.World Snapshot := {}
  waiting : List String := []
  answers : List (Option String × InteractionResponse) := []
  raised : List Exc := []

/-- `continuity` is a step of the continuity service: of a call of the coordinator, or of another
caller. -/
inductive Action (Snapshot : Type) where
  | start
  | readiness (new : EcosystemReadiness)
  | deliver
  | request (continuityId : String) (services : RuntimeServices) (text : String)
  | continuity (action : Continuity.Action Snapshot)
  | finish (continuityId : String)

namespace World

variable (lower : String → String) (errorText : PyValue → PyValue → String)

/-- The event is published where the readiness changes. -/
def setReadiness (w : World Snapshot) (new : EcosystemReadiness) : World Snapshot :=
  if w.readiness = new then w
  else { w with readiness := new, events := if w.subscribed then w.events ++ [new] else w.events }

def deliver (w : World Snapshot) : World Snapshot :=
  match w.events with
  | [] => w
  | event :: events => { w with state := onReadinessChanged event w.state, events := events }

def request (w : World Snapshot) (continuityId : String) (services : RuntimeServices)
    (text : String) : World Snapshot :=
  match handleRequest lower w.readiness services text w.state with
  | (state, .respond response) =>
      { w with state := state, answers := w.answers ++ [(none, response)] }
  | (state, .raise exc) => { w with state := state, raised := w.raised ++ [exc] }
  | (state, .await req) =>
      { w with
        state := state
        continuity := w.continuity.begin errorText continuityId req
        waiting := w.waiting ++ [continuityId] }

/-- The call that a request waits for has ended with `result`. -/
def ended (w : World Snapshot) (continuityId : String)
    (result : Except Exc ContinuitySession) : World Snapshot :=
  match finishContinueWork w.state result with
  | (state, .ok response) =>
      { w with
        state := state
        waiting := w.waiting.erase continuityId
        answers := w.answers ++ [(some continuityId, response)] }
  | (state, .error exc) =>
      { w with
        state := state, waiting := w.waiting.erase continuityId, raised := w.raised ++ [exc] }

def finish (w : World Snapshot) (continuityId : String) : World Snapshot :=
  match w.continuity.tasks.get? continuityId with
  | some task =>
      match task.rest with
      | .done result => if continuityId ∈ w.waiting then w.ended continuityId result else w
      | .ask _ _ => w
  | none => w

def step (w : World Snapshot) : Action Snapshot → World Snapshot
  | .start => { w with subscribed := true, state := startState w.readiness }
  | .readiness new => w.setReadiness new
  | .deliver => w.deliver
  | .request continuityId services text => w.request lower errorText continuityId services text
  | .continuity action => { w with continuity := w.continuity.step errorText action }
  | .finish continuityId => w.finish continuityId

/-- The id of a new session is a new one. -/
def Fresh (w : World Snapshot) : Action Snapshot → Prop
  | .request continuityId _ _ => continuityId ≠ "" ∧ w.continuity.tasks.get? continuityId = none
  | .continuity action => w.continuity.Fresh action
  | _ => True

end World

end Surface

end Shyam
