import Mathlib.Order.Basic
import Shyam.Lib.PyValue

/-!
# Synchronization models

The wire envelope that trusted nodes exchange, and the local result of processing one. A version map
is read through `getVersion`, where a missing node counts as `0`.
-/

namespace Shyam

open Python

def syncProtocolVersion : String := "1.0"

/-- Per-node version vector: each node's own counter, as far as it is known. -/
structure NodeVersionMap where
  versions : Dict Int

namespace NodeVersionMap

def getVersion (vm : NodeVersionMap) (nodeId : String) : Int := vm.versions.getD nodeId 0

def withUpdate (vm : NodeVersionMap) (nodeId : String) (version : Int) : NodeVersionMap :=
  ⟨vm.versions.set nodeId version⟩

theorem getVersion_withUpdate (vm : NodeVersionMap) (nodeId : String) (version : Int) :
    (vm.withUpdate nodeId version).getVersion = Function.update vm.getVersion nodeId version := by
  funext k
  by_cases hk : k = nodeId <;> simp [getVersion, withUpdate, Dict.getD, Function.update, hk]

end NodeVersionMap

/-- The state facts being exchanged. -/
structure SyncPayload where
  knownNodeIds : List String
  nodeCapabilities : Dict (List String)
  nodeAvailability : Dict String
  extra : Dict PyValue

/-- Signed synchronization message: the top-level wire object. -/
structure SyncEnvelope where
  senderNodeId : String
  senderPublicKey : String
  protocolVersion : String
  messageType : String
  versionMap : NodeVersionMap
  payload : SyncPayload
  timestamp : DateTime
  messageId : String
  signature : String

def SyncEnvelope.getVersion (e : SyncEnvelope) : String → Int := e.versionMap.getVersion

inductive SyncOutcome where
  | applied
  | alreadyCurrent
  | rejectedUntrusted
  | rejectedInvalidSignature
  | rejectedProtocolMismatch
  | rejectedMalformed
  | rejectedRevoked
  | conflict
  | error
deriving DecidableEq, Repr

/-- The outcomes of an envelope that was not let through. -/
def SyncOutcome.isRejection : SyncOutcome → Bool
  | rejectedUntrusted => true
  | rejectedInvalidSignature => true
  | rejectedProtocolMismatch => true
  | rejectedMalformed => true
  | rejectedRevoked => true
  | _ => false

structure SyncResult where
  outcome : SyncOutcome
  senderNodeId : String := ""
  messageId : String := ""
  localVersionBefore : Int := 0
  localVersionAfter : Int := 0
  detail : String := ""

end Shyam
