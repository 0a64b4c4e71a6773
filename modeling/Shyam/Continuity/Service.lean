import Shyam.Continuity.Models
import Shyam.Lib.Program
import Shyam.Providers.Models
import Shyam.Trust.Models

/-!
# The continuity service

`request_continuity` as a program. It asks for the admission under the lock, for the stores into the
session map, and for the calls to its collaborators, each of which returns or raises. Between two of
these operations it only computes.
-/

namespace Shyam

open Python Interaction

namespace Continuity

/-- The operations of a run. The admission checks for a live session of the work and stores the new
one, in one piece. -/
inductive Op (Snapshot : Type) where
  | enter (session : ContinuitySession)
  | store (session : ContinuitySession)
  | createSnapshot
  | navigate (request : NavigationRequest) (snapshot : Snapshot)
  | getRecord (nodeId : String)
  | transfer (peerId artifactPath : String)
  | continueWork (portableWork : Dict PyValue) (sourceDeviceId continuityId : String)
      (targetUrl : Option String)

@[reducible] def Answer (Snapshot : Type) : Op Snapshot → Type
  | .enter _ => Except Exc Unit
  | .store _ => Unit
  | .createSnapshot => Except Exc Snapshot
  | .navigate _ _ => Except Exc NavigationResult
  | .getRecord _ => Except Exc (Option TrustRecord)
  | .transfer _ _ => Except Exc FluxTransferResponse
  | .continueWork _ _ _ _ => Except Exc ContinuationResponse

abbrev Script (Snapshot α : Type) := Program (Answer Snapshot) Exc α

variable {Snapshot : Type}

def enter (session : ContinuitySession) : Script Snapshot Unit := .ask (.enter session) .done

def store (session : ContinuitySession) : Script Snapshot Unit :=
  .ask (.store session) fun _ => .done (.ok ())

def createSnapshot : Script Snapshot Snapshot := .ask .createSnapshot .done

def navigate (request : NavigationRequest) (snapshot : Snapshot) :
    Script Snapshot NavigationResult :=
  .ask (.navigate request snapshot) .done

def getRecord (nodeId : String) : Script Snapshot (Option TrustRecord) :=
  .ask (.getRecord nodeId) .done

def transfer (peerId artifactPath : String) : Script Snapshot FluxTransferResponse :=
  .ask (.transfer peerId artifactPath) .done

def continueWork (portableWork : Dict PyValue) (sourceDeviceId continuityId : String)
    (targetUrl : Option String) : Script Snapshot ContinuationResponse :=
  .ask (.continueWork portableWork sourceDeviceId continuityId targetUrl) .done

/-! ### Helpers -/

def transition (session : ContinuitySession) (targetState : ContinuityState)
    (result : Option ContinuityResult) : Script Snapshot ContinuitySession :=
  if session.state.isValidTransition targetState then do
    let session := { session with state := targetState, result := result.or session.result }
    store session
    return session
  else throw (ContinuityError.invalidTransition session.continuityId session.state.value
    targetState.value)

/-- Every caller of `_fail` leaves the outcome at FAILED or names it. -/
def fail (session : ContinuitySession) (reason : String) : Script Snapshot ContinuitySession :=
  transition session .failed (some { outcome := .failed, reason := reason })

def rebuild (session : ContinuitySession) : Script Snapshot ContinuitySession := do
  store session
  return session

/-! ### Pipeline stages -/

def validate (session : ContinuitySession) : Script Snapshot ContinuitySession :=
  let req := session.request
  if req.portableWork.entries = [] then fail session "Empty portable_work"
  else if req.workId = "" then fail session "Missing work_id"
  else if req.continuityIntent = .migration then
    transition session .unsupported (some
      { outcome := .unsupported, reason := "MIGRATION intent not supported in S16 first slice." })
  else return session

def pyOr (a b : PyValue) : PyValue := if a.truthy then a else b

/-- `meta.get(key)`. -/
def metaGet (fields : List (String × PyValue)) (key : String) : PyValue :=
  (fields.lookup key).getD .none

/-- `meta.get(key, {}) if isinstance(meta.get(key), dict) else {}`. -/
def metaDict (metadata : Dict PyValue) (key : String) : List (String × PyValue) :=
  match metadata.get? key with
  | some (.dict fields) => fields
  | _ => []

/-- An address of the target: its own metadata first, then the provider's, then the node's. -/
def metaAddress (metadata : Dict PyValue) (key : String) : PyValue :=
  pyOr (pyOr (metaGet metadata.entries key) (metaGet (metaDict metadata "provider") key))
    (metaGet (metaDict metadata "node") key)

def validateOptionalStr : PyValue → Option (Option String)
  | .none => some none
  | .str s => some (some s)
  | _ => none

/-- `ContinuityTarget(...)`, which refuses an address that is neither a string nor `None`. The text
of that error is pydantic's. -/
def makeTarget (errorText : PyValue → PyValue → String) (selected : NavigationCandidate) :
    Except Exc ContinuityTarget :=
  let fluxPeerId := metaAddress selected.metadata "flux_peer_id"
  let zaryaUrl := metaAddress selected.metadata "zarya_url"
  match validateOptionalStr fluxPeerId, validateOptionalStr zaryaUrl with
  | some flux, some zarya =>
      .ok {
        nodeId := selected.nodeId, providerId := selected.providerId,
        deviceId := selected.nodeId, trustVerified := false, fluxPeerId := flux, zaryaUrl := zarya }
  | _, _ => .error ⟨"ValidationError", errorText fluxPeerId zaryaUrl⟩

def selectTarget (errorText : PyValue → PyValue → String) (session : ContinuitySession) :
    Script Snapshot ContinuitySession :=
  tryCatch
    (do
      let snapshot ← createSnapshot
      let navResult ← navigate ⟨"zarya.work.continue", session.request.targetConstraints⟩ snapshot
      match navResult.selected with
      | none => fail session ("No eligible target: " ++ navResult.reason)
      | some selected => do
          let target ← Program.done (makeTarget errorText selected)
          rebuild { session with target := some target })
    fun exc => fail session ("Target selection failed: " ++ exc.text)

def verifyTrust (session : ContinuitySession) : Script Snapshot ContinuitySession :=
  match session.target with
  | none => fail session "No target selected"
  | some target =>
      tryCatch
        (do
          match ← getRecord target.deviceId with
          | none => fail session ("No trust relationship with " ++ target.deviceId)
          | some trustRecord =>
              if trustRecord.status = .unknown then
                fail session ("No trust relationship with " ++ target.deviceId)
              else if trustRecord.status ≠ .trusted then
                fail session ("Target trust status: " ++ trustRecord.status.value)
              else rebuild { session with target := some { target with trustVerified := true } })
        fun exc => fail session ("Trust verification failed: " ++ exc.text)

/-- The artifacts come from the request. -/
def prepareArtifacts (session : ContinuitySession) : Script Snapshot ContinuitySession :=
  return session

/-- `a or b` on an optional string. -/
def strOr (a : Option String) (b : String) : String := (orElse a (some b)).getD b

/-- The loop over the artifact paths; `last` is the transfer id seen last. -/
def transferEach (session : ContinuitySession) (target : ContinuityTarget) :
    Option String → List String → Script Snapshot ContinuitySession
  | last, [] => rebuild { session with transferId := last }
  | _, artifactPath :: rest => do
      let transferResult ← transfer (strOr target.fluxPeerId target.nodeId) artifactPath
      if transferResult.status = .failed ∨ transferResult.status = .cancelled then
        fail session ("Artifact transfer failed with status: " ++ transferResult.status.value)
      else transferEach session target (some transferResult.transferId) rest

def transferArtifacts (session : ContinuitySession) : Script Snapshot ContinuitySession :=
  match session.target with
  | none => fail session "No target for transfer"
  | some target =>
      if session.request.artifactPaths = [] then
        rebuild { session with result := some { outcome := .success, transferCompleted := true } }
      else
        tryCatch (transferEach session target none session.request.artifactPaths)
          fun exc => fail session ("Artifact transfer failed: " ++ exc.text)

/-- `_map_zarya_outcome`: only a verified success is a success. -/
def mapZaryaOutcome : VerificationOutcome → ContinuityOutcome
  | .verifiedSuccess => .success
  | .verifiedFailure => .failed
  | .unknown => .unknown

def continuationResult (resp : ContinuationResponse) : ContinuityResult where
  outcome := mapZaryaOutcome resp.outcome
  transferCompleted := true
  reconstructionCompleted := resp.reconstructionCompleted
  executionCompleted := resp.executionCompleted
  zaryaOutcome := some resp.outcome.value
  reason := resp.summary

def continueOnTarget (session : ContinuitySession) : Script Snapshot ContinuitySession :=
  match session.target with
  | none => fail session "No target for continuation"
  | some target =>
      tryCatch
        (do
          let req := session.request
          let continuationResp ← continueWork req.portableWork req.sourceDeviceId
            session.continuityId (orElse target.zaryaUrl none)
          rebuild { session with
            operationId := some continuationResp.operationId
            result := some (continuationResult continuationResp) })
        fun exc => fail session ("Target continuation failed: " ++ exc.text)

def finalOutcome (zaryaOutcome : Option String) : ContinuityOutcome :=
  if zaryaOutcome = some VerificationOutcome.verifiedSuccess.value then .success
  else if zaryaOutcome = some VerificationOutcome.verifiedFailure.value then .failed
  else .unknown

def verifyResult (session : ContinuitySession) : Script Snapshot ContinuitySession :=
  match session.result with
  | none =>
      transition session .unknown (some { outcome := .unknown, reason := "No result to verify." })
  | some result =>
      let finalResult := { result with outcome := finalOutcome result.zaryaOutcome }
      if finalResult.outcome = .success then transition session .completed (some finalResult)
      else if finalResult.outcome = .failed then transition session .failed (some finalResult)
      else transition session .unknown (some finalResult)

/-! ### The pipeline -/

/-- `if is_terminal(session.state): return session`, and the rest of the pipeline otherwise. -/
def unlessTerminal (session : ContinuitySession)
    (rest : ContinuitySession → Script Snapshot ContinuitySession) :
    Script Snapshot ContinuitySession :=
  if session.state.isTerminal then return session else rest session

def runPipeline (errorText : PyValue → PyValue → String) (session : ContinuitySession) :
    Script Snapshot ContinuitySession := do
  let session ← transition session .validating none
  let session ← validate session
  unlessTerminal session fun session => do
    let session ← transition session .targetSelected none
    let session ← selectTarget errorText session
    unlessTerminal session fun session => do
      let session ← transition session .authorized none
      let session ← verifyTrust session
      unlessTerminal session fun session => do
        let session ← transition session .preparing none
        let session ← prepareArtifacts session
        unlessTerminal session fun session => do
          let session ← transition session .transferring none
          let session ← transferArtifacts session
          unlessTerminal session fun session => do
            let session ← transition session .reconstructing none
            let session ← transition session .continuing none
            let session ← continueOnTarget session
            unlessTerminal session fun session => do
              let session ← transition session .verifying none
              verifyResult session

def requestContinuity (errorText : PyValue → PyValue → String) (continuityId : String)
    (request : ContinuityRequest) : Script Snapshot ContinuitySession := do
  let session := ContinuitySession.new continuityId request
  enter session
  tryCatch (runPipeline errorText session) fun exc =>
    if exc.cls ∈ ContinuityError.classes then throw exc
    else transition session .failed (some
      { outcome := .failed, reason := "Unexpected error: " ++ exc.text })

end Continuity

end Shyam
