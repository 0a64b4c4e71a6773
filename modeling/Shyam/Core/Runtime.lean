import Shyam.Continuity.Sessions
import Shyam.Discovery.Ecosystem
import Shyam.Navigation.Policy
import Shyam.Providers.Zarya
import Shyam.Trust.Service

/-!
# The runtime

How the runtime wires the continuity service: the registry, the navigator and the trust service
answer for themselves, and Flux and Zarya from outside. A run reads the registry and the trust
service once each.
-/

namespace Shyam

open Python Continuity

structure ShyamRuntime where
  ecosystemRegistry : EcosystemRegistry
  trustService : TrustService
  zaryaProvider : ZaryaProvider

/-- What the two gateways answer, given what has happened. -/
structure Gateways where
  transferFile : Past EcosystemSnapshot → String → String → Except Exc FluxTransferResponse
  post : Past EcosystemSnapshot → ZaryaClient → Dict PyValue → String → String →
    Except Exc ContinuationResponse

namespace ShyamRuntime

variable (runtime : ShyamRuntime) (codec : RecordCodec) (now : DateTime) (gateways : Gateways)

def collaborators : Collaborators EcosystemSnapshot := fun past op =>
  match op with
  | .enter _ => .ok ()
  | .store _ => ()
  | .createSnapshot => .ok (runtime.ecosystemRegistry.createSnapshot "")
  | .navigate request snapshot => .ok (Navigation.navigate request snapshot).toNavigationResult
  | .getRecord nodeId => (runtime.trustService.getRecord codec now nodeId).1.map some
  | .transfer peerId artifactPath => gateways.transferFile past peerId artifactPath
  | .continueWork portableWork sourceDeviceId continuityId targetUrl =>
      runtime.zaryaProvider.continueWork (gateways.post past) portableWork
        sourceDeviceId continuityId
        targetUrl

def continuityRun (service : ContinuityService) (errorText : PyValue → PyValue → String)
    (continuityId : String) (request : ContinuityRequest) : Past EcosystemSnapshot :=
  (service.requestContinuity (runtime.collaborators codec now gateways) errorText
    continuityId request).1

/-- Where continuity may go, in the registry as it is. -/
def candidates : List Navigation.Candidate :=
  Navigation.discoverCandidates (runtime.ecosystemRegistry.createSnapshot "") "zarya.work.continue"

def Trusts (nodeId : String) : Prop :=
  ∃ record, (runtime.trustService.getRecord codec now nodeId).1 = .ok record
    ∧ record.status = .trusted

end ShyamRuntime

end Shyam
