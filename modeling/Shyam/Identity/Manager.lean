import Shyam.Trust.StoreBytes

/-!
# The identity file

`IdentityManager` makes the identity of a node once and keeps it in a file. A process holds on to
what it has loaded or made. A call can raise, or the process can be gone in the middle of it.
-/

namespace Shyam

open Python AtomicFile

@[ext]
structure NodeIdentity where
  nodeId : String
  nodeName : String
  createdAt : DateTime
  protocolVersion : String := "0.2.0"

/-- What pydantic contributes. -/
structure IdentityScalars where
  parseUuid : String → Option String
  dumpDateTime : DateTime → String
  validateDateTime : JsonValue → Option DateTime
  errorText : JsonValue → String

/-- What a call finds out when it needs it: `uuid4()`, the clock and `socket.gethostname()`. -/
structure IdentityDraw where
  nodeId : String
  now : DateTime
  hostname : String

namespace NodeIdentity

variable (scalars : IdentityScalars)

/-- `identity.model_dump(mode="json")`. -/
def modelDump (identity : NodeIdentity) : JsonValue :=
  .obj
    [("node_id", .str identity.nodeId), ("node_name", .str identity.nodeName),
      ("created_at", .str (scalars.dumpDateTime identity.createdAt)),
      ("protocol_version", .str identity.protocolVersion)]

/-- `identity.model_dump_json(indent=2)`. -/
def modelDumpJson (identity : NodeIdentity) : String :=
  (identity.modelDump scalars).dumps (.model 2)

def validateFields (draw : IdentityDraw) (fields : List (String × JsonValue)) :
    Option NodeIdentity := do
  let nodeId ← JsonValue.field fields "node_id" (fun v => v.asStr.bind scalars.parseUuid)
    (some draw.nodeId)
  let nodeName ← JsonValue.field fields "node_name" JsonValue.asStr none
  let createdAt ← JsonValue.field fields "created_at" scalars.validateDateTime (some draw.now)
  let protocolVersion ← JsonValue.field fields "protocol_version" JsonValue.asStr (some "0.2.0")
  return ⟨nodeId, nodeName, createdAt, protocolVersion⟩

/-- `NodeIdentity.model_validate(v)`, or what the error says. -/
def modelValidate (draw : IdentityDraw) (v : JsonValue) : Except String NodeIdentity :=
  match v with
  | .obj fields =>
      match validateFields scalars draw fields with
      | some identity => .ok identity
      | none => .error (scalars.errorText v)
  | _ => .error (scalars.errorText v)

end NodeIdentity

/-- A manager and its files; `identity` is what this process has loaded or made. -/
structure IdentityManager where
  path : String
  customNodeName : Option String := none
  identity : Option NodeIdentity := none
  disk : Disk Bytes := {}

/-- A call: what reading the file raises, what the call draws, and how writing the file ends. -/
structure IdentityCall where
  readFault : Option String := none
  draw : IdentityDraw
  ending : SaveEnding := .returns

inductive IdentityAction where
  | restart (customNodeName : Option String)
  | getOrCreateIdentity (call : IdentityCall)

namespace IdentityManager

variable (lib : TextLibrary) (scalars : IdentityScalars)

def corrupted (manager : IdentityManager) (text : String) : Exc :=
  ⟨"IdentityCorruptionError",
    "Corrupted node identity file at '" ++ manager.path
      ++ "'. Validation failed with error: " ++ text⟩

def failed (manager : IdentityManager) (what text : String) : Exc :=
  ⟨"IdentityError", "Failed to " ++ what ++ " identity file at '" ++ manager.path ++ "': " ++ text⟩

/-- An undecodable text is a `ValueError`, which no clause names. -/
def loadIdentity (manager : IdentityManager) (call : IdentityCall) (data : Bytes) :
    Except Exc NodeIdentity :=
  match call.readFault with
  | some text => .error (manager.failed "read" text)
  | none =>
      match readText data with
      | none => .error ⟨"UnicodeDecodeError", lib.unicodeDecodeError data⟩
      | some text =>
          match JsonValue.loads lib.floatRepr text with
          | none => .error (manager.corrupted (lib.jsonDecodeError text))
          | some value =>
              (NodeIdentity.modelValidate scalars call.draw value).mapError manager.corrupted

/-- `custom_node_name or socket.gethostname() or "shyam-node"`. -/
def nodeName (manager : IdentityManager) (call : IdentityCall) : String :=
  match manager.customNodeName with
  | some name =>
      if name ≠ "" then name else if call.draw.hostname ≠ "" then call.draw.hostname
      else "shyam-node"
  | none => if call.draw.hostname ≠ "" then call.draw.hostname else "shyam-node"

def newIdentity (manager : IdentityManager) (call : IdentityCall) : NodeIdentity where
  nodeId := call.draw.nodeId
  nodeName := manager.nodeName call
  createdAt := call.draw.now

/-- What the call writes: nothing where the file exists. -/
def written (manager : IdentityManager) (call : IdentityCall)
    (content : Option Bytes) : Option Bytes :=
  match manager.identity, content with
  | none, none => some (writeText ((manager.newIdentity call).modelDumpJson scalars))
  | _, _ => none

/-- What the call returns or raises. -/
def result (manager : IdentityManager) (call : IdentityCall) : Option (Except Exc NodeIdentity) :=
  match manager.identity with
  | some identity => some (.ok identity)
  | none =>
      match manager.disk.file with
      | some data => some (manager.loadIdentity lib scalars call data)
      | none =>
          match call.ending with
          | .returns => some (.ok (manager.newIdentity call))
          | .raises (.mkdir text) _ | .raises (.write text) _ | .raises (.replace text) _ =>
              some (.error (manager.failed "persist" text))
          | .stops _ => none

/-- The process keeps the identity that the call returns. -/
def getOrCreateIdentity (call : IdentityCall) (manager : IdentityManager) : IdentityManager :=
  { manager with
    identity :=
      match manager.result lib scalars call with
      | some (.ok identity) => some identity
      | some (.error _) | none => none
    disk := manager.disk.session (manager.written scalars call) call.ending.progress }

def step (manager : IdentityManager) : IdentityAction → IdentityManager
  | .restart customNodeName => { manager with customNodeName, identity := none }
  | .getOrCreateIdentity call => manager.getOrCreateIdentity lib scalars call

/-- What the calls of a run return, one after the other. -/
def answers (manager : IdentityManager) : List IdentityAction → List (Except Exc NodeIdentity)
  | [] => []
  | .restart customNodeName :: actions =>
      answers (manager.step lib scalars (.restart customNodeName)) actions
  | .getOrCreateIdentity call :: actions =>
      (manager.result lib scalars call).toList
        ++ answers (manager.step lib scalars (.getOrCreateIdentity call)) actions

end IdentityManager

end Shyam
