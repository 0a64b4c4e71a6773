import Shyam.Bootstrap.Receiver

/-!
# The joining device

`execute_client_bootstrap`: the request is signed with the key of the running synchronization
service, in the name of the identity that is loaded. An accepted request makes the device trust the
authority in turn.
-/

namespace Shyam

open Python

namespace BootstrapSession

/-- `session.transition(state)` and then the exception. -/
def abandon (session : BootstrapSession) (state : BootstrapState) (exc : Exc) :
    Except Exc BootstrapSession := do
  let _ ← session.transition state
  throw exc

theorem abandon_ne_ok (session : BootstrapSession) {session' : BootstrapSession}
    {state : BootstrapState} {exc : Exc} : session.abandon state exc ≠ .ok session' := by
  intro h
  rw [abandon] at h
  cases htransition : session.transition state with
  | error exc' =>
      rw [htransition] at h
      cases h
  | ok abandoned =>
      rw [htransition] at h
      cases h

end BootstrapSession

namespace BootstrapService

variable (ed : Ed25519) (codec : RecordCodec)

/-- Up to the state AUTHENTICATING: the session, and the signed request. -/
def prepareRequest (b : BootstrapService) (nodeName sessionId : String) (createdAt : DateTime) :
    Except Exc (BootstrapSession × BootstrapRequest) := do
  let session : BootstrapSession := { sessionId := sessionId, createdAt := createdAt }
  let session ← session.transition .identityReady
  let session ← session.transition .bootstrapRequested
  match b.identity, b.syncService with
  | none, _ => throw ⟨"BootstrapError", "Local logical identity is missing"⟩
  | some _, none => throw ⟨"BootstrapError", "SyncService is not initialized"⟩
  | some nodeId, some sync =>
      let request : BootstrapRequest :=
        { requestId := session.sessionId, nodeId := nodeId, publicKey := "", nodeName := nodeName
          timestamp := session.createdAt, signature := "" }
      let session ← session.transition .authenticating
      return (session, request.sign ed sync.keypair)

/-- From an accepted response on: trust in the authority, and the first version bump. -/
def establish (b : BootstrapService) (now : DateTime) (fault : Option SaveFault)
    (trust : TrustService) (session : BootstrapSession) (response : BootstrapResponse) :
    Except Exc BootstrapSession × BootstrapService × TrustService :=
  match session.transition .trustEstablished with
  | .error exc => (.error exc, b, trust)
  | .ok session =>
      match trust.grantTrust codec now fault response.authorityNodeId
        (some response.authorityPublicKey)
        { relationship := .infrastructure, «alias» := "Bootstrap Authority" } with
      | (.error exc, trust) => (.error exc, b, trust)
      | (.ok _, trust) =>
          match session.transition .stateInitializing >>= (·.transition .syncing) with
          | .error exc => (.error exc, b, trust)
          | .ok session =>
              (session.transition .ready,
                { b with
                  syncService := b.syncService.map fun sync => sync.incrementLocalVersion.2 },
                trust)

/-- Initiate and coordinate a bootstrap with an authority. `send` is the transport, with what it
reaches. -/
def executeClientBootstrap {σ : Type} (b : BootstrapService) (nodeName sessionId : String)
    (createdAt now : DateTime) (fault : Option SaveFault) (trust : TrustService)
    (send : σ → BootstrapRequest → Except Exc BootstrapResponse × σ) (remote : σ) :
    Except Exc BootstrapSession × BootstrapService × TrustService × σ :=
  match b.prepareRequest ed nodeName sessionId createdAt with
  | .error exc => (.error exc, b, trust, remote)
  | .ok (session, request) =>
      match send remote request with
      | (.error exc, remote) =>
          (session.abandon .failed
            ⟨"BootstrapError", "Transport transmission failed: " ++ exc.text⟩, b, trust, remote)
      | (.ok response, remote) =>
          if response.accepted then
            match b.establish codec now fault trust session response with
            | (result, b, trust) => (result, b, trust, remote)
          else
            (session.abandon .rejected ⟨"BootstrapRejectedError", "Bootstrap rejected for node '"
              ++ request.nodeId ++ "': " ++ response.rejectionReason⟩, b, trust, remote)

end BootstrapService

end Shyam
