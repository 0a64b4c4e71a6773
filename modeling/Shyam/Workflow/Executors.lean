import Shyam.Navigation.Candidates

/-!
# Executors

How a step reaches a provider. The runtime registers an executor under each provider id, and an
executor finds the operation by the capability id of the target. What the operation does is left
out.
-/

namespace Shyam

open Python Navigation

/-- The operations of the providers. -/
inductive ProviderOperation where
  | readFile
  | writeFile
  | listDir
  | zaryaExecute
  | discoverPeers
  | connectPeer
  | transfer
  | getTransferStatus
  | cancelTransfer
deriving DecidableEq, Repr

inductive CapabilityExecutor where
  | localFilesystem
  | zarya
  | flux
deriving DecidableEq, Repr

def stepExecutionError (capability reason : String) : Exc :=
  ⟨"StepExecutionError", "Step 'unknown' (" ++ capability ++ ") execution failed: " ++ reason⟩

namespace CapabilityExecutor

def localFilesystemOperation (cap : String) : Except Exc ProviderOperation :=
  if cap = "file.read" then .ok .readFile
  else if cap = "file.write" then .ok .writeFile
  else if cap = "file.list" then .ok .listDir
  else .error (stepExecutionError cap ("Unsupported local filesystem capability: '" ++ cap ++ "'"))

def fluxOperation (cap : String) : Except Exc ProviderOperation :=
  if cap = "flux.peer.discover" then .ok .discoverPeers
  else if cap = "flux.peer.connect" then .ok .connectPeer
  else if cap = "flux.transfer.send" then .ok .transfer
  else if cap = "flux.transfer.status" then .ok .getTransferStatus
  else if cap = "flux.transfer.cancel" then .ok .cancelTransfer
  else .error (stepExecutionError cap ("Unsupported Flux capability: '" ++ cap ++ "'"))

/-- The branch of `execute`; Zarya decides itself what it executes. -/
def operation : CapabilityExecutor → String → Except Exc ProviderOperation
  | localFilesystem, cap => localFilesystemOperation cap
  | zarya, _ => .ok .zaryaExecute
  | flux, cap => fluxOperation cap

end CapabilityExecutor

namespace ExecutorRegistry

def get (executors : Dict CapabilityExecutor) (providerId : String) :
    Except Exc CapabilityExecutor :=
  match executors.get? providerId with
  | some executor => .ok executor
  | none => .error
      ⟨"ExecutorNotFoundError",
        "No CapabilityExecutor registered for provider '" ++ providerId ++ "'."⟩

/-- The registrations of the runtime. -/
def registered : Dict CapabilityExecutor :=
  (((∅ : Dict CapabilityExecutor).set "local.filesystem" .localFilesystem).set "zarya.sovereign"
    .zarya).set "flux.connectivity" .flux

/-- The operation of the provider that a step on `target` comes to. -/
def dispatch (executors : Dict CapabilityExecutor) (target : Candidate) :
    Except Exc ProviderOperation := do
  let executor ← get executors target.providerId
  executor.operation target.capabilityId

end ExecutorRegistry

end Shyam
