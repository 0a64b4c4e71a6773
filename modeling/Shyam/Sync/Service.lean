import Shyam.Sync.Authenticator
import Shyam.Sync.Versions

/-!
# The synchronization service

Local updates, envelope creation and the merge each hold the service's lock and are one transition.
Processing an envelope authenticates it before taking the lock, so it is a verdict about the trust
store followed by `ingest` on whatever state the lock then finds; the verdict does not read that
state.
-/

namespace Shyam

open Python

structure SyncService where
  localNodeId : String
  keypair : KeyPair
  maxTrackedMessages : Nat
  versionMap : NodeVersionMap
  processedMessageIds : List String
  syncedCapabilities : Dict (PySet String)
  syncedAvailability : Dict String

/-- The order in which iterating a set lists its elements, which the interpreter does not fix. -/
structure SetOrder where
  list : PySet String → List String
  perm : ∀ s, (list s).Perm s.elems

def SetOrder.insertion : SetOrder := ⟨PySet.elems, fun _ => .refl _⟩

/-- `for n, caps in facts.items(): known.setdefault(n, set()).update(caps)`. -/
def mergeCapabilities (known : Dict (PySet String)) (facts : Dict (List String)) :
    Dict (PySet String) :=
  known.mergeWith (fun old caps => (old.getD .empty).update caps) facts

/-- `ids.append(msg_id)` on a deque that keeps the last `maxlen` elements. -/
def appendBounded (maxlen : Nat) (ids : List String) (msgId : String) : List String :=
  (ids ++ [msgId]).drop ((ids ++ [msgId]).length - maxlen)

namespace SyncService

def new (localNodeId : String) (keypair : KeyPair) (maxTrackedMessages : Nat) : SyncService where
  localNodeId := localNodeId
  keypair := keypair
  maxTrackedMessages := maxTrackedMessages
  versionMap := ⟨(∅ : Dict Int).set localNodeId 0⟩
  processedMessageIds := []
  syncedCapabilities := ∅
  syncedAvailability := ∅

def getVersion (s : SyncService) : String → Int := s.versionMap.getVersion

def incrementLocalVersion (s : SyncService) : Int × SyncService :=
  let newV := s.versionMap.getVersion s.localNodeId + 1
  (newV, { s with versionMap := s.versionMap.withUpdate s.localNodeId newV })

/-- Ingest locally observed facts and increment the local version, even if there are none. -/
def updateLocalFacts (s : SyncService) (capabilities : Option (Dict (List String)))
    (availability : Option (Dict String)) : SyncService :=
  let syncedCapabilities := match capabilities with
    | some capabilities => mergeCapabilities s.syncedCapabilities capabilities
    | none => s.syncedCapabilities
  let syncedAvailability := match availability with
    | some availability => s.syncedAvailability.update availability
    | none => s.syncedAvailability
  { s with
    syncedCapabilities := syncedCapabilities
    syncedAvailability := syncedAvailability
    versionMap :=
      s.versionMap.withUpdate s.localNodeId (s.versionMap.getVersion s.localNodeId + 1) }

def sortedCaps (caps : PySet String) : List String := caps.elems.insertionSort (· ≤ ·)

def unsignedEnvelope (ed : Ed25519) (order : SetOrder) (s : SyncService)
    (messageType messageId : String) (timestamp : DateTime) : SyncEnvelope where
  senderNodeId := s.localNodeId
  senderPublicKey := s.keypair.publicKeyB64 ed
  protocolVersion := syncProtocolVersion
  messageType := messageType
  versionMap := s.versionMap
  payload := {
    knownNodeIds :=
      order.list ((s.versionMap.versions.keys.update s.syncedCapabilities.keys.elems).update
        s.syncedAvailability.keys.elems)
    nodeCapabilities := s.syncedCapabilities.mapValues sortedCaps
    nodeAvailability := s.syncedAvailability
    extra := ∅ }
  timestamp := timestamp
  messageId := messageId
  signature := ""

def createSyncEnvelope (ed : Ed25519) (order : SetOrder) (s : SyncService)
    (messageType messageId : String) (timestamp : DateTime) : Except Exc SyncEnvelope :=
  SyncAuthenticator.signEnvelope ed (s.unsignedEnvelope ed order messageType messageId timestamp)
    s.keypair

/-- Steps 4 and 5: merge the facts, then the version vectors. -/
def mergeEnvelope (s : SyncService) (e : SyncEnvelope) : SyncService :=
  { s with
    syncedCapabilities := mergeCapabilities s.syncedCapabilities e.payload.nodeCapabilities
    syncedAvailability := s.syncedAvailability.update e.payload.nodeAvailability
    versionMap := mergeVersionMaps s.versionMap e.versionMap }

/-- `self._processed_message_ids.append(msg_id)`. -/
def remember (s : SyncService) (msgId : String) : SyncService :=
  { s with
    processedMessageIds := appendBounded s.maxTrackedMessages s.processedMessageIds msgId }

def ingest (s : SyncService) (e : SyncEnvelope) : SyncResult × SyncService :=
  if e.messageId ∈ s.processedMessageIds then
    ({ outcome := .alreadyCurrent, senderNodeId := e.senderNodeId, messageId := e.messageId
       detail := "Duplicate message already processed" }, s)
  else
    let vBefore := s.versionMap.getVersion s.localNodeId
    let comparison := compareVersions s.versionMap e.versionMap
    if comparison = .equal ∨ comparison = .ahead then
      ({ outcome := .alreadyCurrent, senderNodeId := e.senderNodeId, messageId := e.messageId
         localVersionBefore := vBefore, localVersionAfter := vBefore
         detail := "Local state is " ++ comparison.value ++ " relative to remote" },
        s.remember e.messageId)
    else
      let s' := (s.mergeEnvelope e).remember e.messageId
      ({ outcome := if comparison = .concurrent then .conflict else .applied
         senderNodeId := e.senderNodeId, messageId := e.messageId
         localVersionBefore := vBefore
         localVersionAfter := s'.versionMap.getVersion s'.localNodeId
         detail := "Synchronized facts successfully (causality: " ++ comparison.value ++ ")" },
        s')

/-- What a step did: its result or the exception it raised, and the two services afterwards. -/
structure Processed where
  result : Except Exc SyncResult
  trust : TrustService
  service : SyncService

def processIncomingEnvelope (ed : Ed25519) (codec : RecordCodec) (now : DateTime)
    (trust : TrustService) (s : SyncService) (e : SyncEnvelope) : Processed :=
  if e.senderNodeId = s.localNodeId then
    ⟨.ok { outcome := .alreadyCurrent, senderNodeId := e.senderNodeId, messageId := e.messageId
           detail := "Ignored self-originating envelope" }, trust, s⟩
  else
    let (verdict, trust') := SyncAuthenticator.authenticateIncoming ed codec now trust e
    match verdict with
    | .error exc => ⟨.error exc, trust', s⟩
    | .ok verdict =>
        if verdict.valid then
          let (result, s') := s.ingest e
          ⟨.ok result, trust', s'⟩
        else
          ⟨.ok { outcome := verdict.outcome, senderNodeId := e.senderNodeId
                 messageId := e.messageId, detail := verdict.detail }, trust', s⟩

/-- The operations that can change a service. An envelope is processed under whatever the trust
store holds when it arrives. -/
inductive Op where
  | updateLocalFacts (capabilities : Option (Dict (List String)))
      (availability : Option (Dict String))
  | incrementLocalVersion
  | processIncomingEnvelope (now : DateTime) (trust : TrustService) (e : SyncEnvelope)

def perform (ed : Ed25519) (codec : RecordCodec) (s : SyncService) : Op → SyncService
  | .updateLocalFacts capabilities availability => s.updateLocalFacts capabilities availability
  | .incrementLocalVersion => s.incrementLocalVersion.2
  | .processIncomingEnvelope now trust e =>
      (s.processIncomingEnvelope ed codec now trust e).service

section

variable (ed : Ed25519) (codec : RecordCodec) (s : SyncService)

/-! Rewriting with these keeps the kernel from running the authentication of a concrete envelope. -/

theorem perform_updateLocalFacts (capabilities : Option (Dict (List String)))
    (availability : Option (Dict String)) :
    s.perform ed codec (.updateLocalFacts capabilities availability)
      = s.updateLocalFacts capabilities availability := by
  rw [perform]

theorem perform_incrementLocalVersion :
    s.perform ed codec .incrementLocalVersion = s.incrementLocalVersion.2 := by
  rw [perform]

theorem perform_processIncomingEnvelope (now : DateTime) (trust : TrustService)
    (e : SyncEnvelope) : s.perform ed codec (.processIncomingEnvelope now trust e)
      = (s.processIncomingEnvelope ed codec now trust e).service := by
  rw [perform]

end

def getNodeCapabilities (s : SyncService) (nodeId : String) : List String :=
  sortedCaps (s.syncedCapabilities.getD nodeId .empty)

def getNodeAvailability (s : SyncService) (nodeId : String) : Option String :=
  s.syncedAvailability.get? nodeId

end SyncService

end Shyam
