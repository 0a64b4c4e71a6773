import Shyam.Bootstrap.Models
import Shyam.Sync.Service

/-!
# Device bootstrap and recovery

The authority's side of a bootstrap verifies a request against the key the request itself carries,
then grants trust to the node it names. Recovery of a device that kept its identity bumps the local
version and does nothing else.
-/

namespace Shyam

open Python

/-- The collaborators a bootstrap service reads: the local node id, once an identity is loaded, and
the running synchronization service, if there is one. -/
structure BootstrapService where
  identity : Option String
  syncService : Option SyncService

namespace BootstrapRequest

def signable (request : BootstrapRequest) : String :=
  request.requestId ++ ":" ++ request.nodeId ++ ":" ++ request.publicKey ++ ":" ++
    String.ofList request.timestamp.isoformat

/-- The request with the sender's key, and its signature over what it then says. -/
def sign (ed : Ed25519) (keypair : KeyPair) (request : BootstrapRequest) : BootstrapRequest :=
  let request := { request with publicKey := keypair.publicKeyB64 ed }
  { request with
    signature := Base64.b64encode (keypair.sign ed (encodeUtf8 request.signable)) }

/-- The `try` block of the signature check, for any key. -/
def verifiedBy (ed : Ed25519) (key : String) (request : BootstrapRequest) : Except Exc Bool := do
  let signature ← Base64.b64decode request.signature
  return KeyPair.verifyWithPublicKey ed key (encodeUtf8 request.signable) signature

/-- `request.node_name or f"node-{request.node_id[:8]}"`. -/
def peerAlias (request : BootstrapRequest) : String :=
  if request.nodeName = "" then "node-" ++ String.ofList (request.nodeId.toList.take 8)
  else request.nodeName

/-- The key of a request verifies exactly what that key signed. -/
theorem verifiedBy_sign (ed : Ed25519) (keypair : KeyPair) (request : BootstrapRequest)
    (key : String) : (request.sign ed keypair).verifiedBy ed key
      = .ok (KeyPair.verifyWithPublicKey ed key
          (encodeUtf8 (request.sign ed keypair).signable)
          (keypair.sign ed (encodeUtf8 (request.sign ed keypair).signable))) := by
  rw [verifiedBy, show (request.sign ed keypair).signature = Base64.b64encode
    (keypair.sign ed (encodeUtf8 (request.sign ed keypair).signable)) from rfl,
    Base64.b64decode_b64encode]
  rfl

theorem verifiedBy_sign_self {ed : Ed25519} (hed : ed.Lawful) (keypair : KeyPair)
    (request : BootstrapRequest) :
    (request.sign ed keypair).verifiedBy ed (request.sign ed keypair).publicKey = .ok true := by
  rw [verifiedBy_sign]
  exact congrArg Except.ok (KeyPair.verifyWithPublicKey_sign hed _ _)

end BootstrapRequest

namespace BootstrapService

variable (ed : Ed25519) (codec : RecordCodec)

/-- Steps 2 to 4: the trust standing of the node, the grant, and the authority's own identity. -/
def enroll (b : BootstrapService) (now : DateTime) (fault : Option SaveFault) (trust : TrustService)
    (request : BootstrapRequest) : Except Exc BootstrapResponse × TrustService :=
  match trust.getRecord codec now request.nodeId with
  | (.error exc, trust) => (.error exc, trust)
  | (.ok record, trust) =>
      if record.status = .revoked then
        (.ok { requestId := request.requestId, accepted := false, timestamp := now
               rejectionReason := "Node '" ++ request.nodeId ++ "' is REVOKED"
               outcome := .rejectedRevoked }, trust)
      else
        match trust.grantTrust codec now fault request.nodeId (some request.publicKey)
          { relationship := .peer, «alias» := request.peerAlias } with
        | (.error exc, trust) => (.error exc, trust)
        | (.ok _, trust) =>
            (.ok { requestId := request.requestId, accepted := true, timestamp := now
                   authorityNodeId := b.identity.getD ""
                   authorityPublicKey :=
                     b.syncService.elim "" fun sync => sync.keypair.publicKeyB64 ed
                   outcome := .success }, trust)

def handleIncomingRequest (b : BootstrapService) (now : DateTime) (fault : Option SaveFault)
    (trust : TrustService) (request : BootstrapRequest) :
    Except Exc BootstrapResponse × TrustService :=
  match request.verifiedBy ed request.publicKey with
  | .error exc =>
      (.ok { requestId := request.requestId, accepted := false, timestamp := now
             rejectionReason := "Signature validation error: " ++ exc.text
             outcome := .rejectedSignature }, trust)
  | .ok false =>
      (.ok { requestId := request.requestId, accepted := false, timestamp := now
             rejectionReason := "Cryptographic signature verification failed"
             outcome := .rejectedSignature }, trust)
  | .ok true => b.enroll ed codec now fault trust request

theorem handleIncomingRequest_sign {ed : Ed25519} (hed : ed.Lawful) (b : BootstrapService)
    (now : DateTime) (fault : Option SaveFault) (trust : TrustService) (keypair : KeyPair)
    (request : BootstrapRequest) :
    b.handleIncomingRequest ed codec now fault trust (request.sign ed keypair)
      = b.enroll ed codec now fault trust (request.sign ed keypair) := by
  rw [handleIncomingRequest, BootstrapRequest.verifiedBy_sign_self hed]

/-- **What a request can do**: fail its signature, stop at the node's
record, or be granted trust. -/
theorem handleIncomingRequest_cases (b : BootstrapService) (now : DateTime)
    (fault : Option SaveFault) (trust : TrustService) (request : BootstrapRequest) :
    (request.verifiedBy ed request.publicKey ≠ .ok true
        ∧ (b.handleIncomingRequest ed codec now fault trust request).2 = trust)
      ∨ (request.verifiedBy ed request.publicKey = .ok true
        ∧ (∀ record, (trust.getRecord codec now request.nodeId).1 = .ok record →
            record.status = .revoked)
        ∧ (b.handleIncomingRequest ed codec now fault trust request).2
          = (trust.getRecord codec now request.nodeId).2)
      ∨ (request.verifiedBy ed request.publicKey = .ok true
        ∧ ∃ record, (trust.getRecord codec now request.nodeId).1 = .ok record
          ∧ record.status ≠ .revoked
          ∧ (b.handleIncomingRequest ed codec now fault trust request).2
            = ((trust.getRecord codec now request.nodeId).2.grantTrust codec now fault
                request.nodeId (some request.publicKey)
                { relationship := .peer, «alias» := request.peerAlias }).2) := by
  rw [handleIncomingRequest]
  cases hverified : request.verifiedBy ed request.publicKey with
  | error exc => exact Or.inl ⟨by simp, rfl⟩
  | ok valid =>
      cases valid with
      | false => exact Or.inl ⟨by simp, rfl⟩
      | true =>
          right
          simp only [enroll]
          rcases hrecord : trust.getRecord codec now request.nodeId with ⟨_ | record, t'⟩
          · exact Or.inl ⟨trivial, by simp, rfl⟩
          · by_cases hrevoked : record.status = .revoked
            · exact Or.inl ⟨trivial, by simpa using hrevoked, by simp [hrevoked]⟩
            · refine Or.inr ⟨trivial, record, rfl, hrevoked, ?_⟩
              simp only [if_neg hrevoked]
              rcases t'.grantTrust codec now fault request.nodeId (some request.publicKey)
                { relationship := .peer, «alias» := request.peerAlias } with ⟨_ | _, _⟩ <;> rfl

theorem handleIncomingRequest_of_revoked (b : BootstrapService) (now : DateTime)
    (fault : Option SaveFault) {trust : TrustService} {request : BootstrapRequest}
    {record : TrustRecord} (hrecord : (trust.getRecord codec now request.nodeId).1 = .ok record)
    (hrevoked : record.status = .revoked) : ∃ response,
      (b.handleIncomingRequest ed codec now fault trust request).1 = .ok response
        ∧ response.accepted = false := by
  rw [handleIncomingRequest]
  cases request.verifiedBy ed request.publicKey with
  | error exc => exact ⟨_, rfl, rfl⟩
  | ok valid =>
      cases valid with
      | false => exact ⟨_, rfl, rfl⟩
      | true =>
          rcases hlookup : trust.getRecord codec now request.nodeId with ⟨_ | found, t'⟩
          · simp [hlookup] at hrecord
          · rw [hlookup, Except.ok.injEq] at hrecord
            simp only [enroll, hlookup, hrecord, hrevoked, if_true]
            exact ⟨_, rfl, rfl⟩

/-- Evaluate and run recovery. `created` is what creating and persisting a fresh identity gives. -/
def recoverDevice (b : BootstrapService) (now : DateTime) (created : Except Exc String)
    (request : RecoveryRequest) : Except Exc RecoveryResult × BootstrapService :=
  match request.scenario with
  | .identityLost =>
      match created with
      | .error exc => (.error exc, b)
      | .ok newId =>
          (.ok { requestId := request.requestId, success := true, scenario := request.scenario
                 newNodeId := newId, timestamp := now
                 detail :=
                   "Identity lost. Generated fresh cryptographic identity and enrollment path." },
            { b with identity := some newId })
  | .stateLostIdentityIntact =>
      match b.syncService with
      | none =>
          (.error ⟨"RecoveryError", "SyncService is not active. Cannot execute recovery."⟩, b)
      | some sync =>
          (.ok { requestId := request.requestId, success := true, scenario := request.scenario
                 newNodeId := request.existingNodeId, timestamp := now
                 detail := "Identity intact. Re-synchronized version maps and restored facts." },
            { b with syncService := some sync.incrementLocalVersion.2 })
  | scenario =>
      (.ok { requestId := request.requestId, success := false, scenario := scenario
             timestamp := now, detail := "Unsupported or unknown recovery scenario" }, b)

end BootstrapService

end Shyam
