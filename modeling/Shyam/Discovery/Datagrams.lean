import Shyam.Discovery.Liveness

/-!
# Datagrams

From the bytes of a packet to the task that it starts. A packet is read inside a `try` that knows
the exceptions of `decode`, `json.loads` and `UUID`. What the values that were read have no
attribute for raises something else.
-/

namespace Shyam

open Python

/-- What raises while a packet is read. -/
inductive DatagramFault where
  | unicodeDecodeError
  | jsonDecodeError
  | valueError
  | typeError
  | attributeError (typeName name : String)
deriving DecidableEq, Repr

/-- `except (json.JSONDecodeError, ValueError, KeyError, TypeError)`; an undecodable text is a
`ValueError`. -/
def DatagramFault.isCaught : DatagramFault → Bool
  | unicodeDecodeError | jsonDecodeError | valueError | typeError => true
  | attributeError _ _ => false

namespace DiscoveryService

/-- `type(value).__name__`. -/
def typeName : PyValue → String
  | .none => "NoneType"
  | .bool _ => "bool"
  | .int _ => "int"
  | .float _ => "float"
  | .str _ => "str"
  | .list _ => "list"
  | .tuple _ => "tuple"
  | .set _ => "set"
  | .dict _ => "dict"
  | .datetime _ => "datetime"
  | .uuid _ => "UUID"
  | .model _ => "BaseModel"
  | .object name => name

variable (rules : DiscoveryRules) (loads : String → Option JsonValue)

/-- `json.loads(data.decode("utf-8"))`; `loads` is what the library reads a text as. -/
def loadPayload (data : Bytes) : Except DatagramFault PyValue :=
  match decodeUtf8 data with
  | none => .error .unicodeDecodeError
  | some text =>
      match loads text with
      | none => .error .jsonDecodeError
      | some payload => .ok (.ofJson payload)

/-- `payload.get`. -/
def payloadFields : PyValue → Except DatagramFault (Dict PyValue)
  | .dict fields => .ok (dictOf fields)
  | payload => .error (.attributeError (typeName payload) "get")

/-- `UUID(node_id_str)`, which takes a text apart with `replace`. -/
def uuidOf : PyValue → Except DatagramFault String
  | .none => .error .typeError
  | .str text =>
      match rules.parseUuid text with
      | some nodeId => .ok nodeId
      | none => .error .valueError
  | value => .error (.attributeError (typeName value) "replace")

def isNull : PyValue → Bool
  | .none => true
  | _ => false

/-- The rest of the `try`: nothing, where a field is missing. -/
def readAnnouncement (payload : Dict PyValue) (remoteIp : String) :
    Except DatagramFault (Option Announcement) :=
  let nodeId := payload.getD "node_id" .none
  let nodeName := payload.getD "node_name" .none
  let port := payload.getD "port" .none
  if !nodeId.truthy || !nodeName.truthy || isNull port then .ok none
  else
    (uuidOf rules nodeId).map fun nodeId =>
      some
        { nodeId := nodeId
          nodeName := nodeName
          address := remoteIp
          port := port
          protocolVersion := payload.getD "protocol_version" (.str "0.2.0")
          metadata := payload.getD "metadata" (.dict []) }

def readDatagram (data : Bytes) (remoteIp : String) :
    Except DatagramFault (Option Announcement) := do
  let payload ← loadPayload loads data
  let fields ← payloadFields payload
  readAnnouncement rules fields remoteIp

end DiscoveryService

namespace UdpWorld

open DiscoveryService

variable (rules : DiscoveryRules) (loads : String → Option JsonValue)

/-- What a packet does to the service, or what it raises. -/
def datagramReceived (identity : Option LocalIdentity) (now : DateTime)
    (data : Bytes) (remoteIp : String) (w : UdpWorld) : Except DatagramFault UdpWorld :=
  match readDatagram rules loads data remoteIp with
  | .error fault => if fault.isCaught then .ok w else .error fault
  | .ok none => .ok w
  | .ok (some a) =>
      if identity.any (·.nodeId = a.nodeId) then .ok w
      else .ok { w with tasks := w.tasks ++ [(now, a)], seen := w.seen ++ [a.nodeId] }

end UdpWorld

/-! ### The task that a packet starts -/

namespace DiscoveryService

variable {rules : DiscoveryRules} {loads : String → Option JsonValue} {data : Bytes}
  {remoteIp : String}

theorem isNull_iff {value : PyValue} : isNull value = true ↔ value = .none := by
  cases value <;> simp [isNull]

theorem uuidOf_str (text : String) :
    (uuidOf rules (.str text)).toOption = rules.parseUuid text := by
  rw [uuidOf]
  cases hid : rules.parseUuid text with
  | none => simp [Except.toOption]
  | some nodeId => simp [Except.toOption]

theorem uuidOf_eq_none {value : PyValue} (h : ∀ text, value ≠ .str text) :
    (uuidOf rules value).toOption = none := by
  cases value with
  | str text => exact absurd rfl (h text)
  | _ => rfl

theorem join_map_some {β : Type} {x : Except DatagramFault String} {f : String → β} :
    (x.map fun nodeId => some (f nodeId)).toOption.join = x.toOption.map f := by
  cases x with
  | error fault => rfl
  | ok nodeId => rfl

/-- The announcement of an object is what the reading comes to, if it does not raise. -/
theorem parse_dict (fields : List (String × PyValue)) :
    parse rules (some (.dict fields)) remoteIp
      = (readAnnouncement rules (dictOf fields) remoteIp).toOption.join := by
  simp only [parse, readAnnouncement]
  generalize (dictOf fields).getD "node_id" .none = nodeId
  generalize (dictOf fields).getD "node_name" .none = nodeName
  generalize (dictOf fields).getD "port" .none = port
  split
  case h_1 => simp [isNull, Except.toOption]
  case h_2 text hport =>
    have hnull : isNull port = false := by
      rw [Bool.eq_false_iff]
      exact fun h => hport (isNull_iff.mp h)
    by_cases hmissing : text = "" ∨ nodeName.truthy = false
    · rw [if_pos hmissing, if_pos (by simpa [PyValue.truthy, hnull] using hmissing)]
      rfl
    · rw [if_neg hmissing, if_neg (by simpa [PyValue.truthy, hnull] using hmissing),
        join_map_some, uuidOf_str]
  case h_3 htext _ =>
    split_ifs
    · rfl
    · rw [join_map_some, uuidOf_eq_none htext]
      rfl

/-- The bytes come to the same task as the payload that they hold: what the reading raises leaves
the service alone. -/
theorem readDatagram_toOption (data : Bytes) :
    (readDatagram rules loads data remoteIp).toOption.join
      = parse rules (loadPayload loads data).toOption remoteIp := by
  rw [readDatagram]
  cases loadPayload loads data with
  | error fault => rfl
  | ok payload =>
      cases payload with
      | dict fields => exact (parse_dict fields).symm
      | _ => rfl

end DiscoveryService

namespace UdpWorld

open DiscoveryService

variable {rules : DiscoveryRules} {loads : String → Option JsonValue}

theorem datagramReceived_toOption (self : LocalIdentity) (now : DateTime)
    (data : Bytes) (remoteIp : String) (w : UdpWorld) :
    (datagramReceived rules loads (some self) now data remoteIp w).toOption.getD w
      = handleDatagram rules self now (loadPayload loads data).toOption remoteIp w := by
  rw [datagramReceived, handleDatagram, ← readDatagram_toOption]
  rcases readDatagram rules loads data remoteIp with fault | _ | a
  · dsimp only [Except.toOption, Option.join]
    split_ifs
    · rfl
    · rfl
  · rfl
  · have htask : (Except.ok (some a) : Except DatagramFault (Option Announcement)).toOption.join
      = some a := rfl
    rw [htask]
    by_cases hself : a.nodeId = self.nodeId
    · simp [hself, Except.toOption]
    · simp [hself, Ne.symm hself, Except.toOption]

end UdpWorld

end Shyam
