import Shyam.Sync.Models

/-!
# Canonical serialization of envelopes

`normalizeValue` turns any value into JSON-like data with sorted dictionaries; the canonical bytes
are its compact JSON text in UTF-8. An envelope is signed over every field but its signature.
-/

namespace Shyam

open Python JsonValue

mutual

/-- `_normalize_value`: dictionaries in key order, every collection as a list, timestamps in ISO
format and UUIDs as text. A nested model is the dictionary it dumps to. -/
def normalizeValue : PyValue → PyValue
  | .model fields => .dict (sortFields (normalizeFields fields))
  | .dict fields => .dict (sortFields (normalizeFields fields))
  | .list items => .list (normalizeItems items)
  | .tuple items => .list (normalizeItems items)
  | .set items => .list (normalizeItems items)
  | .datetime t => .str (String.ofList t.isoformat)
  | .uuid text => .str text
  | .none => .none
  | .bool b => .bool b
  | .int i => .int i
  | .float literal => .float literal
  | .str s => .str s
  | .object typeName => .object typeName

def normalizeItems : List PyValue → List PyValue
  | [] => []
  | v :: vs => normalizeValue v :: normalizeItems vs

def normalizeFields : List (String × PyValue) → List (String × PyValue)
  | [] => []
  | f :: fs => normalizeField f :: normalizeFields fs

def normalizeField : String × PyValue → String × PyValue
  | (k, v) => (k, normalizeValue v)

end

/-- `json.dumps(normalized, sort_keys=True, ensure_ascii=False, separators=(",", ":"))` in UTF-8. -/
def canonicalJsonBytes (data : PyValue) : Except Exc Bytes :=
  (normalizeValue data).jsonDumps.map encodeUtf8

def SyncPayload.modelDump (p : SyncPayload) : PyValue :=
  .dict [
    ("known_node_ids", .list (p.knownNodeIds.map .str)),
    ("node_capabilities",
      .dict (p.nodeCapabilities.mapValues fun caps => .list (caps.map .str)).entries),
    ("node_availability", .dict (p.nodeAvailability.mapValues .str).entries),
    ("extra", .dict p.extra.entries)]

/-- `envelope.model_dump(mode="python", exclude={"signature"})`. -/
def SyncEnvelope.modelDump (e : SyncEnvelope) : PyValue :=
  .dict [
    ("sender_node_id", .str e.senderNodeId),
    ("sender_public_key", .str e.senderPublicKey),
    ("protocol_version", .str e.protocolVersion),
    ("message_type", .str e.messageType),
    ("version_map", .dict [("versions", .dict (e.versionMap.versions.mapValues .int).entries)]),
    ("payload", e.payload.modelDump),
    ("timestamp", .datetime e.timestamp),
    ("message_id", .str e.messageId)]

def getSignableBytes (e : SyncEnvelope) : Except Exc Bytes := canonicalJsonBytes e.modelDump

/-! ### Normalized JSON data -/

theorem normalizeItems_eq_map (vs : List PyValue) : normalizeItems vs = vs.map normalizeValue := by
  induction vs with
  | nil => rfl
  | cons v vs ih => simp [normalizeItems, ih]

theorem normalizeFields_eq_map (fs : List (String × PyValue)) :
    normalizeFields fs = fs.map fun f => (f.1, normalizeValue f.2) := by
  induction fs with
  | nil => rfl
  | cons f fs ih =>
      obtain ⟨k, v⟩ := f
      simp [normalizeFields, normalizeField, ih]

theorem normalizeValue_dict (fs : List (String × PyValue)) :
    normalizeValue (.dict fs)
      = .dict ((sortFields fs).map fun f => (f.1, normalizeValue f.2)) := by
  rw [normalizeValue, normalizeFields_eq_map, sortFields_map]

theorem normalizeValue_ofJson (v : JsonValue) :
    normalizeValue (.ofJson v) = .ofJson v.canon := by
  induction v using inductionOn with
  | arr items ih =>
      rw [PyValue.ofJson, normalizeValue, canon, PyValue.ofJson, normalizeItems_eq_map,
        canonItems_eq_map, PyValue.ofJsonItems_eq_map, PyValue.ofJsonItems_eq_map, List.map_map,
        List.map_map]
      exact congrArg PyValue.list (List.map_congr_left ih)
  | obj fields ih =>
      rw [PyValue.ofJson, normalizeValue_dict, canon, PyValue.ofJson, canonFields_eq_map,
        PyValue.ofJsonFields_eq_map, PyValue.ofJsonFields_eq_map, sortFields_map, sortFields_map,
        List.map_map, List.map_map]
      refine congrArg PyValue.dict (List.map_congr_left fun f hf => ?_)
      exact congrArg (Prod.mk f.1) (ih f ((perm_sortFields fields).mem_iff.mp hf))
  | _ => rfl

/-- The canonical bytes of plain data are its text. -/
theorem canonicalJsonBytes_of_normalizeValue_eq {data : PyValue} {v : JsonValue} (hv : v.Plain)
    (h : normalizeValue data = normalizeValue (.ofJson v)) :
    canonicalJsonBytes data = .ok (encodeUtf8 (String.ofList v.text)) := by
  rw [canonicalJsonBytes, h, normalizeValue_ofJson, PyValue.jsonDumps_ofJson, text_canon hv]
  rfl

/-! ### The JSON form of an envelope -/

/-- The payload as JSON, when `extra` is what its own extra was loaded from. -/
def SyncPayload.wire (p : SyncPayload) (extra : Dict JsonValue) : JsonValue :=
  .obj [
    ("known_node_ids", .arr (p.knownNodeIds.map .str)),
    ("node_capabilities", ofDict (fun caps => .arr (caps.map .str)) p.nodeCapabilities),
    ("node_availability", ofDict .str p.nodeAvailability),
    ("extra", ofDict id extra)]

def SyncEnvelope.wire (e : SyncEnvelope) (extra : Dict JsonValue) : JsonValue :=
  .obj [
    ("sender_node_id", .str e.senderNodeId),
    ("sender_public_key", .str e.senderPublicKey),
    ("protocol_version", .str e.protocolVersion),
    ("message_type", .str e.messageType),
    ("version_map", .obj [("versions", ofDict .int e.versionMap.versions)]),
    ("payload", e.payload.wire extra),
    ("timestamp", .str (String.ofList e.timestamp.isoformat)),
    ("message_id", .str e.messageId)]

theorem ofJson_ofDict {α : Type} (enc : α → JsonValue) (d : Dict α) :
    PyValue.ofJson (ofDict enc d) = .dict (d.mapValues fun a => .ofJson (enc a)).entries := by
  rw [ofDict, PyValue.ofJson, PyValue.ofJsonFields_eq_map]
  simp [Dict.mapValues, Function.comp_def]

theorem ofJsonItems_strings (xs : List String) :
    PyValue.ofJsonItems (xs.map .str) = xs.map .str := by
  rw [PyValue.ofJsonItems_eq_map, List.map_map]
  rfl

theorem SyncPayload.modelDump_eq {p : SyncPayload} {extra : Dict JsonValue}
    (h : p.extra = extra.mapValues .ofJson) : p.modelDump = .ofJson (p.wire extra) := by
  simp only [modelDump, wire, PyValue.ofJson, PyValue.ofJsonFields, PyValue.ofJsonField,
    ofJson_ofDict, ofJsonItems_strings, h, id_eq]

/-- Normalizing replaces the timestamp by its text, the one field that is not JSON already. -/
theorem SyncEnvelope.normalizeValue_modelDump {e : SyncEnvelope} {extra : Dict JsonValue}
    (h : e.payload.extra = extra.mapValues .ofJson) :
    normalizeValue e.modelDump = normalizeValue (.ofJson (e.wire extra)) := by
  simp only [modelDump, wire, PyValue.ofJson, PyValue.ofJsonFields, PyValue.ofJsonField,
    ofJson_ofDict, SyncPayload.modelDump_eq h, normalizeValue, normalizeFields, normalizeField]

theorem SyncEnvelope.plain_wire (e : SyncEnvelope) {extra : Dict JsonValue}
    (h : ∀ k v, extra.get? k = some v → v.Plain) : (e.wire extra).Plain := by
  have hints : (ofDict .int e.versionMap.versions).Plain := plain_ofDict fun _ i _ => .int i
  have hcaps : (ofDict (fun caps => .arr (caps.map .str)) e.payload.nodeCapabilities).Plain :=
    plain_ofDict fun _ caps _ => plain_map .str caps
  have havail : (ofDict .str e.payload.nodeAvailability).Plain := plain_ofDict fun _ s _ => .str s
  have hpayload : (e.payload.wire extra).Plain := by
    apply JsonValue.Plain.obj (by simp)
    simp only [List.forall_mem_cons]
    exact ⟨plain_map .str _, hcaps, havail, plain_ofDict h, by simp⟩
  have hversions : (JsonValue.obj [("versions", ofDict .int e.versionMap.versions)]).Plain :=
    .obj (by simp) (by simpa using hints)
  apply JsonValue.Plain.obj (by simp)
  simp only [List.forall_mem_cons]
  exact ⟨.str _, .str _, .str _, .str _, hversions, hpayload, .str _, .str _, by simp⟩

/-- **What is signed.** The signed bytes are the text of the envelope's JSON form. -/
theorem getSignableBytes_eq {e : SyncEnvelope} {extra : Dict JsonValue}
    (h : e.payload.extra = extra.mapValues .ofJson)
    (hplain : ∀ k v, extra.get? k = some v → v.Plain) :
    getSignableBytes e = .ok (encodeUtf8 (String.ofList (e.wire extra).text)) :=
  canonicalJsonBytes_of_normalizeValue_eq (e.plain_wire hplain) (e.normalizeValue_modelDump h)

end Shyam
