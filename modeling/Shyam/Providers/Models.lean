/-!
# Provider models

What Flux reports about a transfer, and Zarya about a continuation.
-/

namespace Shyam

inductive FluxTransferStatus where
  | created
  | running
  | completed
  | failed
  | cancelled
deriving DecidableEq, Repr

namespace FluxTransferStatus

def value : FluxTransferStatus → String
  | created => "CREATED"
  | running => "RUNNING"
  | completed => "COMPLETED"
  | failed => "FAILED"
  | cancelled => "CANCELLED"

end FluxTransferStatus

structure FluxTransferResponse where
  transferId : String
  status : FluxTransferStatus

inductive VerificationOutcome where
  | verifiedSuccess
  | verifiedFailure
  | unknown
deriving DecidableEq, Repr

namespace VerificationOutcome

def value : VerificationOutcome → String
  | verifiedSuccess => "VERIFIED_SUCCESS"
  | verifiedFailure => "VERIFIED_FAILURE"
  | unknown => "UNKNOWN"

end VerificationOutcome

structure ContinuationResponse where
  operationId : String
  outcome : VerificationOutcome
  reconstructionCompleted : Bool
  executionCompleted : Bool
  summary : String

end Shyam
