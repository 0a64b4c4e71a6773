import Shyam.Continuity.Models
import Shyam.Core.Readiness
import Shyam.Lib.Substring

/-!
# The surface coordinator

What a request of the user comes to. `handle_request` suspends in one place, where it waits for
`request_continuity`, so it is given in two pieces: what it does before it waits, and what it does
with the result.
-/

namespace Shyam

open Python Sovereign

namespace Surface

inductive SurfaceState where
  | idle
  | listening
  | understanding
  | executing
  | completed
  | failed
  | degraded
deriving DecidableEq, Repr

inductive UserIntent where
  | continueWork
  | unknown
deriving DecidableEq, Repr

structure InteractionResponse where
  message : String
  state : SurfaceState
  detail : Option String := none
deriving DecidableEq

/-! ### Intents -/

namespace IntentParser

def continueSignals : List String :=
  ["continue", "resume", "move", "transfer", "pick up", "handoff"]

def objectSignals : List String :=
  ["work", "task", "project", "this", "it", "laptop", "device", "computer",
    "machine", "phone", "tablet"]

def matchesContinueWork (text : String) : Bool :=
  continueSignals.any (contains text ·) && objectSignals.any (contains text ·)

/-- `lower` is `str.lower`. -/
def parse (lower : String → String) (text : String) : UserIntent :=
  let normalised := strip (lower text)
  if normalised = "" then .unknown
  else if matchesContinueWork normalised then .continueWork
  else .unknown

end IntentParser

/-! ### Responses -/

namespace Presenter

def successResponse : InteractionResponse where
  message := "Done — work continued on your other laptop."
  state := .completed

def failureResponse (detail : String) : InteractionResponse where
  message := "I couldn't continue this work right now."
  state := .failed
  detail := some detail

def unknownIntentResponse : InteractionResponse where
  message := "I'm not sure how to help with that yet."
  state := .idle

def degradedResponse : InteractionResponse where
  message := "Shyam isn't fully ready yet. Try again in a moment."
  state := .degraded

end Presenter

/-! ### The coordinator -/

/-- What the runtime has: a continuity service, and what `get_or_create_identity` of its identity
manager comes to. -/
structure RuntimeServices where
  hasContinuityService : Bool
  identity : Option (Except Exc String)

def portableWorkPayload : Dict PyValue where
  entries :=
    [("format_version", .str "n3-portable-v1"), ("work_id", .str "work-active-surface"),
      ("intent", .str "continue_work"),
      ("plan_reference", .dict [("steps", .list [.dict
        [("id", .str "step-1"), ("tool", .str "systemInfo"), ("args", .dict []),
          ("unverified_ok", .bool true),
          ("description", .str "Continue active human task slice")]])]),
      ("outcome", .str "IN_PROGRESS"), ("lifecycle_status", .str "ACTIVE"),
      ("platform", .str "windows"), ("artifact_references", .list [])]
  nodup := by decide

/-- `NavigationConstraints` has no field `capability`, so the one that is passed is ignored. -/
def continuityReq (sourceDeviceId : String) : ContinuityRequest where
  workId := "work-active-surface"
  sourceDeviceId := sourceDeviceId
  portableWork := portableWorkPayload
  continuityIntent := .copy

/-- How `handle_request` goes on. -/
inductive Progress where
  | respond (response : InteractionResponse)
  | raise (exc : Exc)
  | await (request : ContinuityRequest)

/-- `_handle_continue_work`, up to the continuity service. The identity is read
outside of the `try`. -/
def handleContinueWork (services : RuntimeServices) : SurfaceState × Progress :=
  if services.hasContinuityService = false then
    (.failed, .respond (Presenter.failureResponse "Continuity service is not available."))
  else
    match services.identity with
    | none => (.executing, .await (continuityReq "unknown"))
    | some (.ok nodeId) => (.executing, .await (continuityReq nodeId))
    | some (.error exc) => (.executing, .raise exc)

def handleRequest (lower : String → String) (readiness : EcosystemReadiness)
    (services : RuntimeServices) (text : String) (current : SurfaceState) :
    SurfaceState × Progress :=
  if readiness ≠ .ready then (.degraded, .respond Presenter.degradedResponse)
  else
    match IntentParser.parse lower text with
    | .unknown => (current, .respond Presenter.unknownIntentResponse)
    | .continueWork => handleContinueWork services

/-- The outcome that the coordinator reads off what `request_continuity` returns. -/
def outcomeOf (session : ContinuitySession) : Option ContinuityOutcome :=
  match session.result with
  | some result => some result.outcome
  | none => if session.state = .completed then some .success else none

def outcomeValue : ContinuityOutcome → String
  | .success => "success"
  | .failed => "failed"
  | .cancelled => "cancelled"
  | .unsupported => "unsupported"
  | .unknown => "unknown"

def outcomeStr (outcome : Option ContinuityOutcome) : String :=
  (outcome.map outcomeValue).getD "None"

/-- The rest of `_handle_continue_work`. `except Exception` lets a cancellation through, and the
state stays as it is. -/
def finishContinueWork (current : SurfaceState) :
    Except Exc ContinuitySession → SurfaceState × Except Exc InteractionResponse
  | .ok session =>
      if outcomeOf session = some .success then (.completed, .ok Presenter.successResponse)
      else (.failed,
        .ok (Presenter.failureResponse ("Continuity failed: " ++ outcomeStr (outcomeOf session))))
  | .error exc =>
      if exc.cls = "CancelledError" then (current, .error exc)
      else (.failed, .ok (Presenter.failureResponse exc.text))

/-- What `start` sets the state to. -/
def startState (readiness : EcosystemReadiness) : SurfaceState :=
  if readiness ≠ .ready then .degraded else .idle

/-- `_on_readiness_changed`. -/
def onReadinessChanged (newReadiness : EcosystemReadiness)
    (current : SurfaceState) : SurfaceState :=
  if newReadiness = .ready then if current = .degraded then .idle else current
  else if current = .idle ∨ current = .degraded then .degraded
  else current

example : IntentParser.parse id " pick up my task " = .continueWork := by decide

end Surface

end Shyam
