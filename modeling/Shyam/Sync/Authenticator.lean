import Shyam.Identity.Crypto
import Shyam.Sync.Serializer
import Shyam.Trust.Service

/-!
# Authentication of incoming envelopes

Three checks look at the envelope alone, then the sender's trust record decides: its status, the key
it pins, and the signature under that key. Only the lookup of the record can raise.
-/

namespace Shyam

open Python

/-- `tuple[bool, SyncOutcome, str]`: validity, classification and detail. -/
structure Verdict where
  valid : Bool
  outcome : SyncOutcome
  detail : String

namespace SyncAuthenticator

variable (ed : Ed25519) (codec : RecordCodec)

def signEnvelope (e : SyncEnvelope) (keypair : KeyPair) : Except Exc SyncEnvelope := do
  let signable ← getSignableBytes e
  let rawSig := keypair.sign ed signable
  return { e with signature := Base64.b64encode rawSig }

def reject (outcome : SyncOutcome) (detail : String) : Verdict := ⟨false, outcome, detail⟩

/-- The `try` block: decoding and serializing may raise, the verification itself does not. -/
def verifySignature (key : String) (e : SyncEnvelope) : Except Exc Bool := do
  let rawSig ← Base64.b64decode e.signature
  let signableBytes ← getSignableBytes e
  return KeyPair.verifyWithPublicKey ed key signableBytes rawSig

/-- Step 5: the signature under the key that was settled on. -/
def checkSignature (keyToVerify : String) (e : SyncEnvelope) : Verdict :=
  match verifySignature ed keyToVerify e with
  | .error exc =>
      reject .rejectedInvalidSignature ("Signature parsing or verification error: " ++ exc.text)
  | .ok false => reject .rejectedInvalidSignature "Ed25519 signature verification failed"
  | .ok true => ⟨true, .applied, "Authentication successful"⟩

/-- `pinned_key or envelope.sender_public_key`. -/
def keyToVerify (record : TrustRecord) (e : SyncEnvelope) : String :=
  if record.pinnedKey = "" then e.senderPublicKey else record.pinnedKey

/-- Steps 3 to 5, for the sender's record. -/
def judge (record : TrustRecord) (e : SyncEnvelope) : Verdict :=
  if record.isRevoked then
    reject .rejectedRevoked ("Node '" ++ e.senderNodeId ++ "' trust standing is REVOKED")
  else if !record.isTrusted then
    reject .rejectedUntrusted ("Node '" ++ e.senderNodeId ++ "' is not in local trust store")
  else if record.pinnedKey ≠ "" ∧ record.pinnedKey ≠ e.senderPublicKey then
    reject .rejectedInvalidSignature
      ("Envelope public key does not match pinned trust key for node '" ++ e.senderNodeId ++ "'")
  else if keyToVerify record e = "" then
    reject .rejectedMalformed ("No public key available for node '" ++ e.senderNodeId ++ "'")
  else checkSignature ed (keyToVerify record e) e

def authenticateIncoming (now : DateTime) (trust : TrustService) (e : SyncEnvelope) :
    Except Exc Verdict × TrustService :=
  if e.protocolVersion ≠ syncProtocolVersion then
    (.ok (reject .rejectedProtocolMismatch ("Unsupported protocol version '" ++ e.protocolVersion
      ++ "', expected '" ++ syncProtocolVersion ++ "'")), trust)
  else if e.signature = "" then
    (.ok (reject .rejectedInvalidSignature "Envelope is unsigned"), trust)
  else if e.senderNodeId = "" then
    (.ok (reject .rejectedMalformed "Envelope missing sender_node_id"), trust)
  else
    let (record, trust') := trust.getRecord codec now e.senderNodeId
    (record.map fun r => judge ed r e, trust')

/-! ### What passes -/

/-- The record is trusted, pins no key but the envelope's own, and the signature
verifies under it. -/
structure Authentic (record : TrustRecord) (e : SyncEnvelope) : Prop where
  trusted : record.status = .trusted
  pinned : record.pinnedKey = "" ∨ record.pinnedKey = e.senderPublicKey
  key_ne : e.senderPublicKey ≠ ""
  verified : verifySignature ed e.senderPublicKey e = .ok true

variable {ed codec} {record : TrustRecord} {e : SyncEnvelope} {now : DateTime}
  {trust : TrustService} {verdict : Verdict} {key : String}

theorem checkSignature_valid_iff :
    (checkSignature ed key e).valid = true ↔ verifySignature ed key e = .ok true := by
  unfold checkSignature
  split <;> simp_all [reject]

/-- The bytes that a verified signature covers, and the key and signature it decodes to. -/
theorem verifySignature_eq_true_iff : verifySignature ed key e = .ok true ↔
    ∃ rawSig bytes, Base64.b64decode e.signature = .ok rawSig ∧ getSignableBytes e = .ok bytes
      ∧ KeyPair.verifyWithPublicKey ed key bytes rawSig = true := by
  unfold verifySignature
  cases Base64.b64decode e.signature with
  | error exc => simp [bind, Except.bind]
  | ok rawSig =>
      cases getSignableBytes e with
      | error exc => simp [bind, Except.bind]
      | ok bytes => simp [bind, Except.bind, pure, Except.pure]

/-- A pinned key that is not the envelope's is rejected, so the envelope's own key is verified. -/
theorem keyToVerify_of_pinned (h : record.pinnedKey = "" ∨ record.pinnedKey = e.senderPublicKey) :
    keyToVerify record e = e.senderPublicKey := by
  unfold keyToVerify
  split_ifs with hempty
  · rfl
  · exact h.resolve_left hempty

theorem judge_valid_iff : (judge ed record e).valid = true ↔ Authentic ed record e := by
  constructor
  · intro h
    unfold judge at h
    split_ifs at h with hrevoked htrusted hpinned hkey
    · exact absurd h Bool.false_ne_true
    · exact absurd h Bool.false_ne_true
    · exact absurd h Bool.false_ne_true
    · exact absurd h Bool.false_ne_true
    · have hpinned : record.pinnedKey = "" ∨ record.pinnedKey = e.senderPublicKey := by
        rwa [not_and_or, not_not, not_not] at hpinned
      rw [keyToVerify_of_pinned hpinned] at h hkey
      exact ⟨by simpa [TrustRecord.isTrusted] using htrusted, hpinned, hkey,
        checkSignature_valid_iff.mp h⟩
  · rintro ⟨htrusted, hpinned, hkey, hverified⟩
    have hmismatch : ¬(record.pinnedKey ≠ "" ∧ record.pinnedKey ≠ e.senderPublicKey) := by
      rwa [not_and_or, not_not, not_not]
    have hrevoked : ¬record.isRevoked = true := by simp [TrustRecord.isRevoked, htrusted]
    have hunknown : ¬(!record.isTrusted) = true := by simp [TrustRecord.isTrusted, htrusted]
    rw [judge, if_neg hrevoked, if_neg hunknown, if_neg hmismatch, keyToVerify_of_pinned hpinned,
      if_neg hkey]
    exact checkSignature_valid_iff.mpr hverified

/-- **The gate.** An envelope passes only with the current protocol, a sender, a signature, and a
record that authenticates it. -/
theorem authenticateIncoming_valid
    (h : (authenticateIncoming ed codec now trust e).1 = .ok verdict)
    (hvalid : verdict.valid = true) :
    e.protocolVersion = syncProtocolVersion ∧
      ∃ record, (trust.getRecord codec now e.senderNodeId).1 = .ok record
        ∧ Authentic ed record e := by
  unfold authenticateIncoming at h
  split_ifs at h with hprotocol hsigned hsender
  · cases h
    exact absurd hvalid Bool.false_ne_true
  · cases h
    exact absurd hvalid Bool.false_ne_true
  · cases h
    exact absurd hvalid Bool.false_ne_true
  · refine ⟨not_not.mp hprotocol, ?_⟩
    cases hrecord : (trust.getRecord codec now e.senderNodeId).1 with
    | error exc => simp [hrecord, Except.map] at h
    | ok record =>
        simp only [hrecord, Except.map, Except.ok.injEq] at h
        exact ⟨record, rfl, judge_valid_iff.mp (h ▸ hvalid)⟩

theorem authenticateIncoming_of_authentic (hprotocol : e.protocolVersion = syncProtocolVersion)
    (hsigned : e.signature ≠ "") (hsender : e.senderNodeId ≠ "")
    (hrecord : (trust.getRecord codec now e.senderNodeId).1 = .ok record)
    (h : Authentic ed record e) :
    ∃ verdict, (authenticateIncoming ed codec now trust e).1 = .ok verdict
      ∧ verdict.valid = true := by
  refine ⟨judge ed record e, ?_, judge_valid_iff.mpr h⟩
  rw [authenticateIncoming, if_neg (not_not.mpr hprotocol), if_neg hsigned, if_neg hsender]
  simp [hrecord, Except.map]

/-- Authenticating reads the sender's record or nothing. -/
theorem authenticateIncoming_trust : (authenticateIncoming ed codec now trust e).2 = trust
    ∨ (authenticateIncoming ed codec now trust e).2
      = (trust.getRecord codec now e.senderNodeId).2 := by
  unfold authenticateIncoming
  split_ifs
  · exact Or.inl rfl
  · exact Or.inl rfl
  · exact Or.inl rfl
  · exact Or.inr rfl

theorem isRejection_of_not_valid
    (h : (authenticateIncoming ed codec now trust e).1 = .ok verdict)
    (hvalid : verdict.valid = false) : verdict.outcome.isRejection = true := by
  have hcheck : ∀ key, (checkSignature ed key e).valid = false →
      (checkSignature ed key e).outcome.isRejection = true := by
    intro key hinvalid
    unfold checkSignature at hinvalid ⊢
    split at hinvalid
    · rfl
    · rfl
    · cases hinvalid
  have hjudge : ∀ record, (judge ed record e).valid = false →
      (judge ed record e).outcome.isRejection = true := by
    intro record hinvalid
    unfold judge at hinvalid ⊢
    split_ifs at hinvalid ⊢
    all_goals first | rfl | exact hcheck _ hinvalid
  unfold authenticateIncoming at h
  split_ifs at h
  · cases h
    rfl
  · cases h
    rfl
  · cases h
    rfl
  · cases hrecord : (trust.getRecord codec now e.senderNodeId).1 with
    | error exc => simp [hrecord, Except.map] at h
    | ok record =>
        simp only [hrecord, Except.map, Except.ok.injEq] at h
        subst h
        exact hjudge record hvalid

end SyncAuthenticator

end Shyam
