import Shyam.Lib.Gossip
import Shyam.Sync.Service

/-!
# What the service's operations do to vectors and facts

A service and an envelope are read as replicas: a version vector and a set of capability facts, each
a node with one of its capabilities. Every operation of the service is then a publication, a
snapshot or a receipt, and availability is overlaid key by key.
-/

namespace Shyam

open Python Gossip

abbrev Fact := String × String

def factsOf (capabilities : Dict (List String)) : Set Fact :=
  {f | f.2 ∈ capabilities.getD f.1 []}

def factsOf? (capabilities : Option (Dict (List String))) : Set Fact :=
  capabilities.elim ∅ factsOf

def knownFacts (known : Dict (PySet String)) : Set Fact := {f | f.2 ∈ known.getD f.1 .empty}

theorem knownFacts_empty : knownFacts ∅ = ∅ := by
  ext f
  simp [knownFacts, Dict.getD]

theorem knownFacts_mergeCapabilities (known : Dict (PySet String)) (facts : Dict (List String)) :
    knownFacts (mergeCapabilities known facts) = knownFacts known ∪ factsOf facts := by
  ext f
  simp only [knownFacts, factsOf, mergeCapabilities, Dict.getD, Dict.get?_mergeWith,
    Set.mem_ofPred_eq, Set.mem_union]
  cases facts.get? f.1 <;> simp

theorem mem_sortedCaps {caps : PySet String} {c : String} :
    c ∈ SyncService.sortedCaps caps ↔ c ∈ caps := List.mem_insertionSort _

theorem factsOf_mapValues_sortedCaps (known : Dict (PySet String)) :
    factsOf (known.mapValues SyncService.sortedCaps) = knownFacts known := by
  ext f
  simp only [factsOf, knownFacts, Dict.getD, Dict.get?_mapValues, Set.mem_ofPred_eq]
  cases known.get? f.1 with
  | none => simp
  | some caps => simp [mem_sortedCaps]

def SyncEnvelope.facts (e : SyncEnvelope) : Set Fact := factsOf e.payload.nodeCapabilities

def SyncEnvelope.availability (e : SyncEnvelope) : String → Option String :=
  e.payload.nodeAvailability.get?

def SyncEnvelope.replica (e : SyncEnvelope) : Replica String Fact := ⟨e.getVersion, e.facts⟩

namespace SyncService

def facts (s : SyncService) : Set Fact := knownFacts s.syncedCapabilities

def availability (s : SyncService) : String → Option String := s.syncedAvailability.get?

theorem getNodeAvailability_eq (s : SyncService) (nodeId : String) :
    s.getNodeAvailability nodeId = s.availability nodeId := rfl

def replica (s : SyncService) : Replica String Fact := ⟨s.getVersion, s.facts⟩

variable {s s' : SyncService} {e : SyncEnvelope}

@[simp] theorem replica_vec (s : SyncService) : s.replica.vec = s.getVersion := rfl

@[simp] theorem replica_facts (s : SyncService) : s.replica.facts = s.facts := rfl

/-! ### Local operations -/

theorem replica_new (localNodeId : String) (keypair : KeyPair) (maxTrackedMessages : Nat) :
    (new localNodeId keypair maxTrackedMessages).replica = Replica.fresh := by
  refine Replica.ext (funext fun k => ?_) knownFacts_empty
  by_cases hk : k = localNodeId <;>
    simp [replica, getVersion, NodeVersionMap.getVersion, new, Dict.getD, Replica.fresh, hk]

theorem localNodeId_incrementLocalVersion (s : SyncService) :
    s.incrementLocalVersion.2.localNodeId = s.localNodeId := rfl

theorem localNodeId_updateLocalFacts (s : SyncService)
    (capabilities : Option (Dict (List String))) (availability : Option (Dict String)) :
    (s.updateLocalFacts capabilities availability).localNodeId = s.localNodeId := rfl

theorem getVersion_incrementLocalVersion : s.incrementLocalVersion.2.getVersion
    = Function.update s.getVersion s.localNodeId (s.getVersion s.localNodeId + 1) :=
  NodeVersionMap.getVersion_withUpdate ..

theorem getVersion_updateLocalFacts (capabilities : Option (Dict (List String)))
    (availability : Option (Dict String)) :
    (s.updateLocalFacts capabilities availability).getVersion
      = Function.update s.getVersion s.localNodeId (s.getVersion s.localNodeId + 1) :=
  NodeVersionMap.getVersion_withUpdate ..

theorem replica_incrementLocalVersion :
    s.incrementLocalVersion.2.replica = s.replica.publish s.localNodeId ∅ := by
  apply Replica.ext getVersion_incrementLocalVersion
  rw [Replica.publish, Set.union_empty]
  rfl

theorem facts_updateLocalFacts (capabilities : Option (Dict (List String)))
    (availability : Option (Dict String)) :
    (s.updateLocalFacts capabilities availability).facts = s.facts ∪ factsOf? capabilities := by
  cases capabilities with
  | none => exact (Set.union_empty _).symm
  | some capabilities => exact knownFacts_mergeCapabilities ..

/-- A local update publishes its capabilities at the next local version. -/
theorem replica_updateLocalFacts (capabilities : Option (Dict (List String)))
    (availability : Option (Dict String)) :
    (s.updateLocalFacts capabilities availability).replica
      = s.replica.publish s.localNodeId (factsOf? capabilities) :=
  Replica.ext (getVersion_updateLocalFacts ..) (facts_updateLocalFacts ..)

def valueOf? (availability : Option (Dict String)) (nodeId : String) : Option String :=
  availability.bind fun availability => availability.get? nodeId

theorem availability_updateLocalFacts (capabilities : Option (Dict (List String)))
    (availability : Option (Dict String)) (nodeId : String) :
    (s.updateLocalFacts capabilities availability).availability nodeId
      = (valueOf? availability nodeId).or (s.availability nodeId) := by
  cases availability with
  | none => rfl
  | some availability => exact Dict.get?_update ..

/-! ### Envelopes -/

section Envelopes

variable (ed : Ed25519) (order : SetOrder) (s : SyncService) (messageType messageId : String)
  (timestamp : DateTime)

/-- The envelope a service creates: unsigned, with the signature over its signable bytes. -/
def signedEnvelope : SyncEnvelope :=
  let e := s.unsignedEnvelope ed order messageType messageId timestamp
  { e with signature :=
      Base64.b64encode (s.keypair.sign ed ((getSignableBytes e).toOption.getD [])) }

/-- An own envelope has an empty extra, so serializing it cannot fail. -/
theorem exists_getSignableBytes : ∃ bytes,
    getSignableBytes (s.unsignedEnvelope ed order messageType messageId timestamp) = .ok bytes := by
  have hextra : (s.unsignedEnvelope ed order messageType messageId timestamp).payload.extra
      = (∅ : Dict JsonValue).mapValues .ofJson := rfl
  exact ⟨_, getSignableBytes_eq hextra (by simp)⟩

theorem createSyncEnvelope_eq : s.createSyncEnvelope ed order messageType messageId timestamp
    = .ok (s.signedEnvelope ed order messageType messageId timestamp) := by
  obtain ⟨bytes, hbytes⟩ := exists_getSignableBytes ed order s messageType messageId timestamp
  rw [createSyncEnvelope, SyncAuthenticator.signEnvelope, signedEnvelope, hbytes]
  rfl

/-- A created envelope is a snapshot of its creator. -/
theorem replica_signedEnvelope :
    (s.signedEnvelope ed order messageType messageId timestamp).replica = s.replica :=
  Replica.ext rfl (factsOf_mapValues_sortedCaps _)

@[simp] theorem messageId_signedEnvelope :
    (s.signedEnvelope ed order messageType messageId timestamp).messageId = messageId := rfl

theorem getVersion_signedEnvelope :
    (s.signedEnvelope ed order messageType messageId timestamp).getVersion = s.getVersion := rfl

theorem availability_signedEnvelope :
    (s.signedEnvelope ed order messageType messageId timestamp).availability = s.availability := rfl

end Envelopes

/-! ### Ingestion -/

@[simp] theorem replica_remember (msgId : String) : (s.remember msgId).replica = s.replica := rfl

theorem replica_mergeEnvelope :
    (s.mergeEnvelope e).replica = ⟨s.getVersion ⊔ e.getVersion, s.facts ∪ e.facts⟩ :=
  Replica.ext getVersion_mergeVersionMaps (knownFacts_mergeCapabilities ..)

theorem availability_mergeEnvelope (nodeId : String) : (s.mergeEnvelope e).availability nodeId
    = (e.availability nodeId).or (s.availability nodeId) := Dict.get?_update ..

def mergeOutcome (s : SyncService) (e : SyncEnvelope) : SyncOutcome :=
  if compareVersions s.versionMap e.versionMap = .concurrent then .conflict else .applied

theorem mergeOutcome_eq :
    s.mergeOutcome e = .applied ∨ s.mergeOutcome e = .conflict := by
  unfold mergeOutcome
  split_ifs
  · exact Or.inr rfl
  · exact Or.inl rfl

/-- **What ingesting can do**: drop a duplicate, remember a dominated envelope, or merge. -/
theorem ingest_cases (s : SyncService) (e : SyncEnvelope) :
    (e.messageId ∈ s.processedMessageIds ∧ (s.ingest e).2 = s
        ∧ (s.ingest e).1.outcome = .alreadyCurrent)
      ∨ (e.messageId ∉ s.processedMessageIds ∧ e.getVersion ≤ s.getVersion
        ∧ (s.ingest e).2 = s.remember e.messageId ∧ (s.ingest e).1.outcome = .alreadyCurrent)
      ∨ (e.messageId ∉ s.processedMessageIds ∧ ¬e.getVersion ≤ s.getVersion
        ∧ (s.ingest e).2 = (s.mergeEnvelope e).remember e.messageId
        ∧ (s.ingest e).1.outcome = s.mergeOutcome e) := by
  by_cases hdup : e.messageId ∈ s.processedMessageIds
  · exact Or.inl ⟨hdup, by rw [ingest, if_pos hdup], by rw [ingest, if_pos hdup]⟩
  · right
    by_cases hle : compareVersions s.versionMap e.versionMap = .equal
        ∨ compareVersions s.versionMap e.versionMap = .ahead
    · refine Or.inl ⟨hdup, compareVersions_eq_or_ahead_iff.mp hle, ?_, ?_⟩
      · rw [ingest, if_neg hdup, if_pos hle]
      · rw [ingest, if_neg hdup, if_pos hle]
    · refine Or.inr ⟨hdup, mt compareVersions_eq_or_ahead_iff.mpr hle, ?_, ?_⟩
      · rw [ingest, if_neg hdup, if_neg hle]
      · rw [ingest, if_neg hdup, if_neg hle]
        rfl

/-- A duplicate aside, ingesting is the receipt of the envelope. -/
theorem replica_ingest (hnew : e.messageId ∉ s.processedMessageIds) :
    (s.ingest e).2.replica = s.replica.receive e.replica := by
  rcases ingest_cases s e with ⟨hdup, -⟩ | ⟨-, hle, hs, -⟩ | ⟨-, hle, hs, -⟩
  · exact absurd hdup hnew
  · rw [hs, replica_remember, Replica.receive_of_le hle]
  · rw [hs, replica_remember, replica_mergeEnvelope, Replica.receive_of_not_le hle]
    rfl

/-- Merging or not, no operation renames a service. -/
@[simp] theorem localNodeId_ingest : (s.ingest e).2.localNodeId = s.localNodeId := by
  rcases ingest_cases s e with ⟨-, hs, -⟩ | ⟨-, -, hs, -⟩ | ⟨-, -, hs, -⟩ <;> rw [hs] <;> rfl

@[simp] theorem keypair_ingest : (s.ingest e).2.keypair = s.keypair := by
  rcases ingest_cases s e with ⟨-, hs, -⟩ | ⟨-, -, hs, -⟩ | ⟨-, -, hs, -⟩ <;> rw [hs] <;> rfl

/-! ### Processing -/

section Processing

variable {ed : Ed25519} {codec : RecordCodec} {now : DateTime} {trust : TrustService}

/-- An envelope is accepted when it is not the service's own and authenticates. -/
def Accepts (ed : Ed25519) (codec : RecordCodec) (now : DateTime) (trust : TrustService)
    (s : SyncService) (e : SyncEnvelope) : Prop :=
  e.senderNodeId ≠ s.localNodeId ∧ ∃ verdict,
    (SyncAuthenticator.authenticateIncoming ed codec now trust e).1 = .ok verdict
      ∧ verdict.valid = true

theorem process_of_accepts (h : Accepts ed codec now trust s e) :
    (s.processIncomingEnvelope ed codec now trust e).service = (s.ingest e).2
      ∧ (s.processIncomingEnvelope ed codec now trust e).result = .ok (s.ingest e).1 := by
  obtain ⟨hsender, verdict, hverdict, hvalid⟩ := h
  simp [processIncomingEnvelope, hsender, hverdict, hvalid]

theorem process_of_not_accepts (h : ¬Accepts ed codec now trust s e) :
    (s.processIncomingEnvelope ed codec now trust e).service = s := by
  unfold processIncomingEnvelope
  by_cases hsender : e.senderNodeId = s.localNodeId
  · rw [if_pos hsender]
  · rw [if_neg hsender]
    cases hverdict : (SyncAuthenticator.authenticateIncoming ed codec now trust e).1 with
    | error exc => simp [hverdict]
    | ok verdict =>
        have hinvalid : verdict.valid = false := by
          by_contra hvalid
          exact h ⟨hsender, verdict, hverdict, by simpa using hvalid⟩
        simp [hverdict, hinvalid]

/-- Processing reads the sender's record or nothing. -/
theorem processIncomingEnvelope_trust :
    (s.processIncomingEnvelope ed codec now trust e).trust = trust
      ∨ (s.processIncomingEnvelope ed codec now trust e).trust
        = (trust.getRecord codec now e.senderNodeId).2 := by
  have hauthenticate : (s.processIncomingEnvelope ed codec now trust e).trust = trust
      ∨ (s.processIncomingEnvelope ed codec now trust e).trust
        = (SyncAuthenticator.authenticateIncoming ed codec now trust e).2 := by
    unfold processIncomingEnvelope
    by_cases hsender : e.senderNodeId = s.localNodeId
    · exact Or.inl (by rw [if_pos hsender])
    · rw [if_neg hsender]
      cases hverdict : (SyncAuthenticator.authenticateIncoming ed codec now trust e).1 with
      | error exc => exact Or.inr (by simp [hverdict])
      | ok verdict => exact Or.inr (by cases hvalid : verdict.valid <;> simp [hverdict, hvalid])
  rcases hauthenticate with h | h
  · exact Or.inl h
  · rw [h]
    exact SyncAuthenticator.authenticateIncoming_trust

/-- An envelope that is not accepted is the service's own or is answered with a rejection. -/
theorem outcome_of_not_accepts (h : ¬Accepts ed codec now trust s e) {result : SyncResult}
    (hresult : (s.processIncomingEnvelope ed codec now trust e).result = .ok result) :
    result.outcome = .alreadyCurrent ∨ result.outcome.isRejection = true := by
  unfold processIncomingEnvelope at hresult
  by_cases hsender : e.senderNodeId = s.localNodeId
  · rw [if_pos hsender, Except.ok.injEq] at hresult
    exact Or.inl (hresult ▸ rfl)
  · rw [if_neg hsender] at hresult
    cases hverdict : (SyncAuthenticator.authenticateIncoming ed codec now trust e).1 with
    | error exc => simp [hverdict] at hresult
    | ok verdict =>
        have hinvalid : verdict.valid = false := by
          by_contra hvalid
          exact h ⟨hsender, verdict, hverdict, by simpa using hvalid⟩
        simp only [hverdict, hinvalid, Bool.false_eq_true, if_false, Except.ok.injEq] at hresult
        rw [← hresult]
        exact Or.inr (SyncAuthenticator.isRejection_of_not_valid hverdict hinvalid)

/-- A delivery that merges: accepted, not a duplicate, and not dominated. -/
def Merges (ed : Ed25519) (codec : RecordCodec) (now : DateTime) (trust : TrustService)
    (s : SyncService) (e : SyncEnvelope) : Prop :=
  Accepts ed codec now trust s e ∧ e.messageId ∉ s.processedMessageIds
    ∧ ¬e.getVersion ≤ s.getVersion

theorem process_of_merges (h : Merges ed codec now trust s e) :
    (s.processIncomingEnvelope ed codec now trust e).service
      = (s.mergeEnvelope e).remember e.messageId := by
  rw [(process_of_accepts h.1).1]
  rcases ingest_cases s e with ⟨hdup, -⟩ | ⟨-, hle, -⟩ | ⟨-, -, hs, -⟩
  · exact absurd hdup h.2.1
  · exact absurd hle h.2.2
  · exact hs

/-- The deliveries that merge are those with outcome APPLIED or CONFLICT. -/
theorem merges_iff_outcome : Merges ed codec now trust s e ↔
    ∃ result, (s.processIncomingEnvelope ed codec now trust e).result = .ok result
      ∧ (result.outcome = .applied ∨ result.outcome = .conflict) := by
  constructor
  · intro h
    refine ⟨_, (process_of_accepts h.1).2, ?_⟩
    rcases ingest_cases s e with ⟨hdup, -⟩ | ⟨-, hle, -⟩ | ⟨-, -, -, houtcome⟩
    · exact absurd hdup h.2.1
    · exact absurd hle h.2.2
    · rw [houtcome]
      exact mergeOutcome_eq
  · rintro ⟨result, hresult, houtcome⟩
    by_cases haccepts : Accepts ed codec now trust s e
    · rw [(process_of_accepts haccepts).2, Except.ok.injEq] at hresult
      subst hresult
      rcases ingest_cases s e with ⟨-, -, halready⟩ | ⟨-, -, -, halready⟩ | ⟨hnew, hle, -⟩
      · simp [halready] at houtcome
      · simp [halready] at houtcome
      · exact ⟨haccepts, hnew, hle⟩
    · have hother := outcome_of_not_accepts haccepts hresult
      rcases houtcome with h | h <;> simp [h, SyncOutcome.isRejection] at hother

theorem getVersion_of_merges (h : Merges ed codec now trust s e) :
    (s.processIncomingEnvelope ed codec now trust e).service.getVersion
      = s.getVersion ⊔ e.getVersion := by
  rw [process_of_merges h]
  exact getVersion_mergeVersionMaps

theorem availability_of_merges (h : Merges ed codec now trust s e) (nodeId : String) :
    (s.processIncomingEnvelope ed codec now trust e).service.availability nodeId
      = (e.availability nodeId).or (s.availability nodeId) := by
  rw [process_of_merges h]
  exact availability_mergeEnvelope nodeId

theorem process_of_not_merges (h : ¬Merges ed codec now trust s e) :
    (s.processIncomingEnvelope ed codec now trust e).service.versionMap = s.versionMap
      ∧ (s.processIncomingEnvelope ed codec now trust e).service.syncedCapabilities
        = s.syncedCapabilities
      ∧ (s.processIncomingEnvelope ed codec now trust e).service.syncedAvailability
        = s.syncedAvailability := by
  by_cases haccepts : Accepts ed codec now trust s e
  · rw [(process_of_accepts haccepts).1]
    rcases ingest_cases s e with ⟨-, hs, -⟩ | ⟨-, -, hs, -⟩ | ⟨hnew, hle, -⟩
    · rw [hs]
      exact ⟨rfl, rfl, rfl⟩
    · rw [hs]
      exact ⟨rfl, rfl, rfl⟩
    · exact absurd ⟨haccepts, hnew, hle⟩ h
  · rw [process_of_not_accepts haccepts]
    exact ⟨rfl, rfl, rfl⟩

theorem replica_process_of_merges (h : Merges ed codec now trust s e) :
    (s.processIncomingEnvelope ed codec now trust e).service.replica
      = s.replica.receive e.replica := by
  rw [(process_of_accepts h.1).1, replica_ingest h.2.1]

theorem replica_process_of_not_merges (h : ¬Merges ed codec now trust s e) :
    (s.processIncomingEnvelope ed codec now trust e).service.replica = s.replica := by
  obtain ⟨hversions, hcapabilities, -⟩ := process_of_not_merges h
  rw [replica, getVersion, facts, hversions, hcapabilities]
  rfl

/-- Verifying a created envelope under any key verifies the creator's signature of its bytes. -/
theorem exists_verifySignature_signedEnvelope (ed : Ed25519) (s : SyncService) (order : SetOrder)
    (messageType messageId : String) (timestamp : DateTime) : ∃ bytes, ∀ key,
      SyncAuthenticator.verifySignature ed key
          (s.signedEnvelope ed order messageType messageId timestamp)
        = .ok (KeyPair.verifyWithPublicKey ed key bytes (s.keypair.sign ed bytes)) := by
  obtain ⟨bytes, hbytes⟩ := exists_getSignableBytes ed order s messageType messageId timestamp
  have hsignature : (s.signedEnvelope ed order messageType messageId timestamp).signature
      = Base64.b64encode (s.keypair.sign ed bytes) := by
    rw [signedEnvelope, hbytes]
    rfl
  have hsigned : getSignableBytes (s.signedEnvelope ed order messageType messageId timestamp)
      = .ok bytes := hbytes
  refine ⟨bytes, fun key => ?_⟩
  rw [SyncAuthenticator.verifySignature, hsignature, Base64.b64decode_b64encode, hsigned]
  rfl

/-- **Honest delivery.** A created envelope authenticates wherever the trust store holds a trusted
record of the creator, with its key or with none. -/
theorem authenticates_signedEnvelope (hed : ed.Lawful) {order : SetOrder}
    {messageType messageId : String} {timestamp : DateTime} {record : TrustRecord}
    (hid : s'.localNodeId ≠ "")
    (hrecord : (trust.getRecord codec now s'.localNodeId).1 = .ok record)
    (htrusted : record.status = .trusted)
    (hpinned : record.pinnedKey = "" ∨ record.pinnedKey = s'.keypair.publicKeyB64 ed) :
    ∃ verdict, (SyncAuthenticator.authenticateIncoming ed codec now trust
        (s'.signedEnvelope ed order messageType messageId timestamp)).1 = .ok verdict
      ∧ verdict.valid = true := by
  obtain ⟨bytes, hbytes⟩ := exists_getSignableBytes ed order s' messageType messageId timestamp
  have hsignature : (s'.signedEnvelope ed order messageType messageId timestamp).signature
      = Base64.b64encode (s'.keypair.sign ed bytes) := by
    rw [signedEnvelope, hbytes]
    rfl
  refine SyncAuthenticator.authenticateIncoming_of_authentic rfl ?_ hid hrecord ?_
  · rw [hsignature]
    exact Base64.b64encode_ne_empty (hed.sign_ne_nil _ _)
  · refine ⟨htrusted, hpinned, KeyPair.publicKeyB64_ne_empty hed _, ?_⟩
    obtain ⟨bytes, hverify⟩ :=
      exists_verifySignature_signedEnvelope ed s' order messageType messageId timestamp
    exact (hverify _).trans (congrArg Except.ok (KeyPair.verifyWithPublicKey_sign hed _ _))

theorem accepts_signedEnvelope (hed : ed.Lawful) {order : SetOrder} {messageType messageId : String}
    {timestamp : DateTime} {record : TrustRecord} (hsender : s'.localNodeId ≠ s.localNodeId)
    (hid : s'.localNodeId ≠ "")
    (hrecord : (trust.getRecord codec now s'.localNodeId).1 = .ok record)
    (htrusted : record.status = .trusted)
    (hpinned : record.pinnedKey = "" ∨ record.pinnedKey = s'.keypair.publicKeyB64 ed) :
    Accepts ed codec now trust s (s'.signedEnvelope ed order messageType messageId timestamp) :=
  ⟨hsender, authenticates_signedEnvelope hed hid hrecord htrusted hpinned⟩

theorem accepts_signedEnvelope_of_trusting (hed : ed.Lawful) {order : SetOrder}
    {messageType messageId : String} {timestamp : DateTime} {nodeIds : PySet String}
    (hsender : s'.localNodeId ≠ s.localNodeId) (hid : s'.localNodeId ≠ "")
    (hmem : s'.localNodeId ∈ nodeIds) : Accepts ed codec now (.trusting nodeIds) s
      (s'.signedEnvelope ed order messageType messageId timestamp) :=
  accepts_signedEnvelope hed hsender hid (TrustService.getRecord_trusting hmem) rfl (Or.inl rfl)

@[simp] theorem localNodeId_process :
    (s.processIncomingEnvelope ed codec now trust e).service.localNodeId = s.localNodeId := by
  by_cases h : Accepts ed codec now trust s e
  · rw [(process_of_accepts h).1, localNodeId_ingest]
  · rw [process_of_not_accepts h]

/-! ### Any operation -/

@[simp] theorem localNodeId_perform (op : Op) :
    (s.perform ed codec op).localNodeId = s.localNodeId := by
  cases op with
  | updateLocalFacts capabilities availability => rfl
  | incrementLocalVersion => rfl
  | processIncomingEnvelope now trust e => exact localNodeId_process

@[simp] theorem keypair_perform (op : Op) : (s.perform ed codec op).keypair = s.keypair := by
  cases op with
  | updateLocalFacts capabilities availability => rfl
  | incrementLocalVersion => rfl
  | processIncomingEnvelope now trust e =>
      change (s.processIncomingEnvelope ed codec now trust e).service.keypair = s.keypair
      by_cases h : Accepts ed codec now trust s e
      · rw [(process_of_accepts h).1, keypair_ingest]
      · rw [process_of_not_accepts h]

/-- No operation ever lowers a component of the version vector. -/
theorem getVersion_le_perform (op : Op) : s.getVersion ≤ (s.perform ed codec op).getVersion := by
  have hbump : s.getVersion ≤ (s.replica.publish s.localNodeId ∅).vec := by
    intro k
    by_cases hk : k = s.localNodeId
    · subst hk
      simp [Replica.publish]
    · simp [Replica.publish, Function.update_of_ne hk]
  cases op with
  | updateLocalFacts capabilities availability =>
      exact hbump.trans_eq (congrArg Replica.vec (replica_updateLocalFacts ..)).symm
  | incrementLocalVersion =>
      exact hbump.trans_eq (congrArg Replica.vec replica_incrementLocalVersion).symm
  | processIncomingEnvelope now trust e =>
      change s.getVersion ≤ (s.processIncomingEnvelope ed codec now trust e).service.getVersion
      by_cases h : Merges ed codec now trust s e
      · rw [getVersion_of_merges h]
        exact le_sup_left
      · rw [getVersion, getVersion, (process_of_not_merges h).1]

end Processing

end SyncService

end Shyam
