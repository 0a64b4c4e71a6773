import Shyam.Lib.PyValue

/-!
# Trust records
-/

namespace Shyam

open Python

inductive TrustStatus where
  | unknown
  | trusted
  | revoked
deriving DecidableEq, Repr

namespace TrustStatus

/-- The enumeration's value, which is also how it formats. -/
def value : TrustStatus → String
  | unknown => "unknown"
  | trusted => "trusted"
  | revoked => "revoked"

def ofValue? : String → Option TrustStatus
  | "unknown" => some unknown
  | "trusted" => some trusted
  | "revoked" => some revoked
  | _ => none

theorem ofValue?_value (status : TrustStatus) : ofValue? status.value = some status := by
  cases status <;> rfl

end TrustStatus

inductive RelationshipType where
  | none
  | personal
  | peer
  | infrastructure
deriving DecidableEq, Repr

namespace RelationshipType

def value : RelationshipType → String
  | none => "none"
  | personal => "personal"
  | peer => "peer"
  | infrastructure => "infrastructure"

def ofValue? : String → Option RelationshipType
  | "none" => some none
  | "personal" => some personal
  | "peer" => some peer
  | "infrastructure" => some infrastructure
  | _ => Option.none

theorem ofValue?_value (relationship : RelationshipType) :
    ofValue? relationship.value = some relationship := by
  cases relationship <;> rfl

end RelationshipType

structure TrustRecord where
  nodeId : String
  publicKey : Option String
  status : TrustStatus
  relationship : RelationshipType
  «alias» : String
  createdAt : DateTime
  updatedAt : DateTime
  metadata : Dict PyValue

/-- `a or b` on optional strings: an empty string counts as missing. -/
def orElse (a b : Option String) : Option String :=
  match a with
  | some s => if s = "" then b else some s
  | none => b

namespace TrustRecord

/-- A record with the model's defaults; both timestamps are the time of construction. -/
def new (nodeId : String) (status : TrustStatus) (now : DateTime) : TrustRecord where
  nodeId := nodeId
  publicKey := none
  status := status
  relationship := .none
  «alias» := ""
  createdAt := now
  updatedAt := now
  metadata := ∅

def isTrusted (r : TrustRecord) : Bool := r.status = .trusted

def isRevoked (r : TrustRecord) : Bool := r.status = .revoked

/-- The pinned key. A missing key and an empty one are both falsy, so both read as empty. -/
def pinnedKey (r : TrustRecord) : String := r.publicKey.getD ""

/-- An updated copy: every argument that is not `None` replaces its field. -/
def withStatus (r : TrustRecord) (status : TrustStatus) (relationship : Option RelationshipType)
    («alias» publicKey : Option String) (metadata : Option (Dict PyValue)) (now : DateTime) :
    TrustRecord :=
  { r with
    status := status
    updatedAt := now
    relationship := relationship.getD r.relationship
    «alias» := «alias».getD r.«alias»
    publicKey := publicKey.or r.publicKey
    metadata := metadata.getD r.metadata }

end TrustRecord

theorem orElse_some {s : String} (h : s ≠ "") (b : Option String) : orElse (some s) b = some s :=
  if_neg h

@[simp] theorem orElse_empty (b : Option String) : orElse (some "") b = b := rfl

theorem orElse_orElse (a : Option String) : orElse (orElse a none) none = orElse a none := by
  cases a with
  | none => rfl
  | some s => by_cases hs : s = "" <;> simp [orElse, hs]

end Shyam
