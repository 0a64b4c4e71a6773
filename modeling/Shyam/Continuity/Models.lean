import Shyam.Continuity.State
import Shyam.Navigation.Models

/-!
# Continuity models

Requests, targets, results and sessions. The two timestamps of a session are left out.
-/

namespace Shyam

open Python

inductive ContinuityOutcome where
  | success
  | failed
  | cancelled
  | unsupported
  | unknown
deriving DecidableEq, Repr

/-- The intents that a request's validator lets through. -/
inductive ContinuityIntent where
  | copy
  | handoff
  | migration
deriving DecidableEq, Repr

structure ContinuityRequest where
  workId : String
  sourceDeviceId : String
  portableWork : Dict PyValue
  artifactPaths : List String := []
  targetConstraints : NavigationConstraints := {}
  continuityIntent : ContinuityIntent := .copy

structure ContinuityTarget where
  nodeId : String
  providerId : String
  deviceId : String
  trustVerified : Bool
  fluxPeerId : Option String
  zaryaUrl : Option String
deriving DecidableEq

/-- What the service knows about the outcome; not the same as Zarya's own outcome. -/
structure ContinuityResult where
  outcome : ContinuityOutcome
  transferCompleted : Bool := false
  reconstructionCompleted : Bool := false
  executionCompleted : Bool := false
  zaryaOutcome : Option String := none
  reason : String := ""
deriving DecidableEq

structure ContinuitySession where
  continuityId : String
  request : ContinuityRequest
  target : Option ContinuityTarget
  state : ContinuityState
  transferId : Option String
  operationId : Option String
  result : Option ContinuityResult

/-- `ContinuitySession(request=request)`, with the id that was generated for it. -/
def ContinuitySession.new (continuityId : String) (request : ContinuityRequest) :
    ContinuitySession where
  continuityId := continuityId
  request := request
  target := none
  state := .requested
  transferId := none
  operationId := none
  result := none

/-! ### Errors -/

namespace ContinuityError

def text (continuityId reason : String) : String := "[" ++ continuityId ++ "] " ++ reason

def invalidTransition (continuityId current attempted : String) : Exc :=
  ⟨"InvalidContinuityTransitionError",
    text continuityId ("Invalid transition: " ++ current ++ " -> " ++ attempted)⟩

def duplicateContinuity (continuityId workId : String) : Exc :=
  ⟨"DuplicateContinuityError",
    text continuityId ("Duplicate continuity for work '" ++ workId ++ "'")⟩

/-- The classes that `except ContinuityError` catches. -/
def classes : List String :=
  ["ContinuityError", "InvalidContinuityTransitionError", "TargetIneligibleError",
    "ArtifactTransferError", "ContinuationRejectedError", "DuplicateContinuityError"]

end ContinuityError

end Shyam
