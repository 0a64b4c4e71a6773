import Shyam.Bootstrap.Client
import Shyam.Lib.Program

/-!
# The attempts of a joining device

`execute_client_bootstrap` as a program: it stores its session, and asks collaborators that may
raise. What is left in the session map when it ends is what it stored last.
-/

namespace Shyam

open Python Interaction

namespace BootstrapAttempt

structure LocalIdentity where
  nodeId : String
  nodeName : String

/-- What a transport returned, by the attributes that are read of it. -/
structure Reply where
  accepted : Except Exc Bool
  rejectionReason : Except Exc String
  authorityNodeId : Except Exc String
  authorityPublicKey : Except Exc String

def Reply.ofResponse (response : BootstrapResponse) : Reply where
  accepted := .ok response.accepted
  rejectionReason := .ok response.rejectionReason
  authorityNodeId := .ok response.authorityNodeId
  authorityPublicKey := .ok response.authorityPublicKey

/-- What is asked of a collaborator. An answer of another type than the one that is used counts as
one that raises, since what is built of it does. -/
inductive Op (Sync : Type) where
  | store (session : BootstrapSession)
  | identity
  | syncService
  | publicKeyB64 (sync : Sync)
  | sign (sync : Sync) (data : Bytes)
  | sendRequest (request : BootstrapRequest)
  | grantTrust (nodeId publicKey : String) (args : TrustService.GrantArgs)
  | incrementLocalVersion (sync : Sync)

@[reducible] def Answer (Sync : Type) : Op Sync → Type
  | .store _ => Unit
  | .identity => Except Exc (Option LocalIdentity)
  | .syncService => Except Exc (Option Sync)
  | .publicKeyB64 _ => Except Exc String
  | .sign _ _ => Except Exc Bytes
  | .sendRequest _ => Except Exc Reply
  | .grantTrust _ _ _ => Except Exc Unit
  | .incrementLocalVersion _ => Except Exc Unit

abbrev Script (Sync α : Type) := Program (Answer Sync) Exc α

abbrev Past (Sync : Type) := List (Event (Answer Sync))

variable {Sync : Type}

def store (session : BootstrapSession) : Script Sync Unit :=
  .ask (.store session) fun _ => .done (.ok ())

def identity : Script Sync (Option LocalIdentity) := .ask .identity .done

def syncService : Script Sync (Option Sync) := .ask .syncService .done

def publicKeyB64 (sync : Sync) : Script Sync String := .ask (.publicKeyB64 sync) .done

def sign (sync : Sync) (data : Bytes) : Script Sync Bytes := .ask (.sign sync data) .done

def sendRequest (request : BootstrapRequest) : Script Sync Reply :=
  .ask (.sendRequest request) .done

def grantTrust (nodeId publicKey : String) (args : TrustService.GrantArgs) : Script Sync Unit :=
  .ask (.grantTrust nodeId publicKey args) .done

def incrementLocalVersion (sync : Sync) : Script Sync Unit :=
  .ask (.incrementLocalVersion sync) .done

def transition (session : BootstrapSession) (newState : BootstrapState) :
    Script Sync BootstrapSession :=
  .done (session.transition newState)

/-- `except Exception as e`: the session is stored as failed, and the error names what failed. -/
def failing {α : Type} (session : BootstrapSession) (what : String)
    (exc : Exc) : Script Sync α := do
  let session ← transition session .failed
  store session
  throw ⟨"BootstrapError", what ++ ": " ++ exc.text⟩

/-- The first version bump, and the end of the attempt. -/
def synchronize (session : BootstrapSession) (sync : Sync) : Script Sync BootstrapSession := do
  let session ← transition session .stateInitializing
  let session ← transition session .syncing
  tryCatch (incrementLocalVersion sync) (failing session "Initial synchronization failed")
  let session ← transition session .ready
  store session
  return session

/-- From an accepted response on. -/
def establish (session : BootstrapSession) (sync : Sync) (reply : Reply) :
    Script Sync BootstrapSession := do
  let session ← transition session .trustEstablished
  let nodeId ← Program.done reply.authorityNodeId
  let publicKey ← Program.done reply.authorityPublicKey
  grantTrust nodeId publicKey { relationship := .infrastructure, «alias» := "Bootstrap Authority" }
  synchronize session sync

/-- The answer to a request of the node. -/
def conclude (session : BootstrapSession) (sync : Sync) (nodeId : String) (reply : Reply) :
    Script Sync BootstrapSession := do
  if ← Program.done reply.accepted then
    establish session sync reply
  else
    let session ← transition session .rejected
    store session
    let reason ← Program.done reply.rejectionReason
    throw ⟨"BootstrapRejectedError", "Bootstrap rejected for node '" ++ nodeId ++ "': " ++ reason⟩

/-- The request, signed by the running synchronization service. -/
def submit (session : BootstrapSession) (localIdentity : LocalIdentity) (sync : Sync) :
    Script Sync BootstrapSession := do
  let publicKey ← publicKeyB64 sync
  let request : BootstrapRequest :=
    { requestId := session.sessionId, nodeId := localIdentity.nodeId, publicKey := publicKey
      nodeName := localIdentity.nodeName, timestamp := session.createdAt, signature := "" }
  let signature ← sign sync (encodeUtf8 request.signable)
  let request := { request with signature := Base64.b64encode signature }
  let session ← transition session .authenticating
  let reply ← tryCatch (sendRequest request) (failing session "Transport transmission failed")
  conclude session sync localIdentity.nodeId reply

def executeClientBootstrap (sessionId : String) (createdAt : DateTime) :
    Script Sync BootstrapSession := do
  let session : BootstrapSession := { sessionId := sessionId, createdAt := createdAt }
  store session
  let session ← transition session .identityReady
  let session ← transition session .bootstrapRequested
  match ← identity with
  | none => throw ⟨"BootstrapError", "Local logical identity is missing"⟩
  | some localIdentity =>
      match ← syncService with
      | none => throw ⟨"BootstrapError", "SyncService is not initialized"⟩
      | some sync => submit session localIdentity sync

/-! ### The session map -/

/-- `self._sessions`, after what was stored. -/
def sessions (before : Dict BootstrapSession) (past : Past Sync) : Dict BootstrapSession :=
  past.foldl (fun sessions e =>
    match e.op with
    | .store session => sessions.set session.sessionId session
    | _ => sessions) before

end BootstrapAttempt

end Shyam
