import Shyam.Lib.PyValue

/-!
# Navigation models

What the continuity service passes to the navigator and reads from its answer.
-/

namespace Shyam

open Python

inductive EcosystemNodeState where
  | known
  | available
  | unavailable
  | stale
deriving DecidableEq, Repr

inductive AvailabilityStatus where
  | registered
  | available
  | unavailable
deriving DecidableEq, Repr

structure NavigationConstraints where
  preferredNode : Option String := none
  preferredProvider : Option String := none
  localOnly : Bool := false
  remoteAllowed : Bool := true
  requiredNodeState : Option EcosystemNodeState := none
  requiredProviderStatus : Option AvailabilityStatus := none
deriving DecidableEq

structure NavigationRequest where
  capability : String
  constraints : NavigationConstraints
deriving DecidableEq

/-- A potential execution target; its metadata merges that of the node and of the provider. -/
structure NavigationCandidate where
  nodeId : String
  providerId : String
  metadata : Dict PyValue

structure NavigationResult where
  selected : Option NavigationCandidate
  reason : String

end Shyam
