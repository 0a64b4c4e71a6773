import Shyam.Bootstrap.Service
import Shyam.Sync.Facts

/-!
# A node that listens

What a remote party can reach: bootstrap requests go to the bootstrap service, envelopes to the
synchronization service, and both consult the one trust service of the node.
-/

namespace Shyam

open Python

structure Receiver where
  identity : Option String
  trust : TrustService
  sync : SyncService

/-- What a remote party can send, and the conditions it arrives under. -/
inductive Inbound where
  | bootstrapRequest (now : DateTime) (fault : Option SaveFault) (request : BootstrapRequest)
  | syncEnvelope (now : DateTime) (e : SyncEnvelope)

namespace Receiver

variable (ed : Ed25519) (codec : RecordCodec)

def bootstrap (r : Receiver) : BootstrapService := ⟨r.identity, some r.sync⟩

def receive (r : Receiver) : Inbound → Receiver
  | .bootstrapRequest now fault request =>
      { r with trust := (r.bootstrap.handleIncomingRequest ed codec now fault r.trust request).2 }
  | .syncEnvelope now e =>
      let processed := r.sync.processIncomingEnvelope ed codec now r.trust e
      { r with trust := processed.trust, sync := processed.service }

/-- What happens at a node: inbound messages, and the trust decisions of its operator. -/
inductive Event where
  | inbound (x : Inbound)
  | grantTrust (now : DateTime) (fault : Option SaveFault) (nodeId : String)
      (publicKey : Option String) (args : TrustService.GrantArgs)
  | revokeTrust (now : DateTime) (fault : Option SaveFault) (nodeId : String)
      (reason : Option String)

def handle (r : Receiver) : Event → Receiver
  | .inbound x => r.receive ed codec x
  | .grantTrust now fault nodeId publicKey args =>
      { r with trust := (r.trust.grantTrust codec now fault nodeId publicKey args).2 }
  | .revokeTrust now fault nodeId reason =>
      { r with trust := (r.trust.revokeTrust codec now fault nodeId reason).2 }

variable (r : Receiver) (now : DateTime) (e : SyncEnvelope)

theorem receive_syncEnvelope : (r.receive ed codec (.syncEnvelope now e)).sync
      = (r.sync.processIncomingEnvelope ed codec now r.trust e).service := by
  rw [receive]

/-- An envelope leaves the trust service as it was, or as a lookup of the sender leaves it. -/
theorem receive_syncEnvelope_trust :
    (r.receive ed codec (.syncEnvelope now e)).trust = r.trust
      ∨ (r.receive ed codec (.syncEnvelope now e)).trust
        = (r.trust.getRecord codec now e.senderNodeId).2 := by
  rw [receive]
  exact SyncService.processIncomingEnvelope_trust

end Receiver

end Shyam
