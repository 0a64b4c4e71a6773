import Shyam.Lib.PyValue

/-!
# Bootstrap and recovery models
-/

namespace Shyam

open Python

inductive BootstrapOutcome where
  | success
  | rejectedRevoked
  | rejectedUntrusted
  | rejectedInvalidIdentity
  | rejectedSignature
  | failedTimeout
  | failedSync
  | failedInternal
  | cancelled
deriving DecidableEq, Repr

inductive BootstrapState where
  | uninitialized
  | identityReady
  | bootstrapRequested
  | authenticating
  | trustEstablished
  | stateInitializing
  | syncing
  | ready
  | failed
  | rejected
  | cancelled
deriving DecidableEq, Repr

namespace BootstrapState

def value : BootstrapState → String
  | uninitialized => "uninitialized"
  | identityReady => "identity_ready"
  | bootstrapRequested => "bootstrap_requested"
  | authenticating => "authenticating"
  | trustEstablished => "trust_established"
  | stateInitializing => "state_initializing"
  | syncing => "syncing"
  | ready => "ready"
  | failed => "failed"
  | rejected => "rejected"
  | cancelled => "cancelled"

def validTransitions : BootstrapState → List BootstrapState
  | uninitialized => [identityReady]
  | identityReady => [bootstrapRequested]
  | bootstrapRequested => [authenticating]
  | authenticating => [trustEstablished, rejected, failed, cancelled]
  | trustEstablished => [stateInitializing, failed, cancelled]
  | stateInitializing => [syncing, failed, cancelled]
  | syncing => [ready, failed, cancelled]
  | ready | failed | rejected | cancelled => []

end BootstrapState

structure BootstrapSession where
  sessionId : String
  state : BootstrapState := .uninitialized
  createdAt : DateTime

namespace BootstrapSession

/-- Advance along the lifecycle. The allowed states of the message are a set, in no fixed order. -/
def transition (session : BootstrapSession) (newState : BootstrapState) :
    Except Exc BootstrapSession :=
  if newState ∈ session.state.validTransitions then .ok { session with state := newState }
  else .error ⟨"ValueError", "Invalid bootstrap transition: " ++ session.state.value ++ " -> "
    ++ newState.value ++ ". Allowed: ["
    ++ ", ".intercalate (session.state.validTransitions.map fun s => "'" ++ s.value ++ "'") ++ "]"⟩

end BootstrapSession

structure BootstrapRequest where
  requestId : String
  nodeId : String
  publicKey : String
  nodeName : String
  timestamp : DateTime
  signature : String

structure BootstrapResponse where
  requestId : String
  accepted : Bool
  authorityNodeId : String := ""
  authorityPublicKey : String := ""
  rejectionReason : String := ""
  outcome : BootstrapOutcome := .success
  timestamp : DateTime

inductive RecoveryScenario where
  | stateLostIdentityIntact
  | identityLost
  | partialState
  | interruptedBootstrap
  | revokedNode
  | unknown
deriving DecidableEq, Repr

structure RecoveryRequest where
  requestId : String
  scenario : RecoveryScenario := .unknown
  existingNodeId : String := ""

structure RecoveryResult where
  requestId : String
  success : Bool
  scenario : RecoveryScenario
  newNodeId : String := ""
  detail : String := ""
  timestamp : DateTime

end Shyam
