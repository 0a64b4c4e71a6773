import Shyam.Sync.Serializer

/-!
# The signed bytes determine the envelope

For envelopes whose extra is plain JSON data the signed bytes are the canonical text of their JSON
form, and canonical texts are equal exactly when the values agree. Reading that agreement field by
field gives equality of the envelopes up to the insertion order of their dictionaries.
-/

namespace Shyam

open Python JsonValue

/-- Data built from null, booleans, integers, strings, lists and string-keyed objects. -/
def PlainData (v : PyValue) : Prop := ∃ j : JsonValue, j.Plain ∧ v = .ofJson j

/-- The same data, ignoring the insertion order of dictionaries at every level. -/
def SameData (v w : PyValue) : Prop :=
  ∃ j j' : JsonValue, v = .ofJson j ∧ w = .ofJson j' ∧ j.Agree j'

def SyncPayload.PlainExtra (p : SyncPayload) : Prop := ∀ k v, p.extra.get? k = some v → PlainData v

/-- Agreement on every field but the signature: dictionaries as maps, lists in order. -/
structure SyncEnvelope.SameSigned (e e' : SyncEnvelope) : Prop where
  senderNodeId : e.senderNodeId = e'.senderNodeId
  senderPublicKey : e.senderPublicKey = e'.senderPublicKey
  protocolVersion : e.protocolVersion = e'.protocolVersion
  messageType : e.messageType = e'.messageType
  versions : ∀ k, e.versionMap.versions.get? k = e'.versionMap.versions.get? k
  knownNodeIds : e.payload.knownNodeIds = e'.payload.knownNodeIds
  nodeCapabilities : ∀ k, e.payload.nodeCapabilities.get? k = e'.payload.nodeCapabilities.get? k
  nodeAvailability : ∀ k, e.payload.nodeAvailability.get? k = e'.payload.nodeAvailability.get? k
  extra : ∀ k, Option.Rel SameData (e.payload.extra.get? k) (e'.payload.extra.get? k)
  timestamp : e.timestamp = e'.timestamp
  messageId : e.messageId = e'.messageId

theorem ofJson_injective : Function.Injective PyValue.ofJson := by
  intro j j' h
  have hjson := congrArg PyValue.toJson h
  rw [PyValue.toJson_ofJson, PyValue.toJson_ofJson, Except.ok.injEq] at hjson
  exact hjson

theorem sameData_ofJson_iff {j j' : JsonValue} :
    SameData (.ofJson j) (.ofJson j') ↔ j.Agree j' := by
  constructor
  · rintro ⟨i, i', hj, hj', hagree⟩
    rwa [ofJson_injective hj, ofJson_injective hj']
  · intro hagree
    exact ⟨j, j', rfl, rfl, hagree⟩

theorem SyncPayload.PlainExtra.exists_json {p : SyncPayload} (hp : p.PlainExtra) :
    ∃ extra : Dict JsonValue, p.extra = extra.mapValues .ofJson
      ∧ ∀ k v, extra.get? k = some v → v.Plain := by
  let json (v : PyValue) : JsonValue := v.toJson.toOption.getD .null
  have hjson (j : JsonValue) : json (.ofJson j) = j := by
    simp [json, PyValue.toJson_ofJson, Except.toOption]
  refine ⟨p.extra.mapValues json, Dict.ext ?_, fun k v hv => ?_⟩
  · change p.extra.entries = (p.extra.entries.map _).map _
    rw [List.map_map]
    refine (List.map_id _).symm.trans (List.map_congr_left fun f hf => ?_)
    obtain ⟨j, -, hj⟩ := hp f.1 f.2 (Dict.get?_eq_some_iff.mpr hf)
    exact Prod.ext rfl (by simp [hj, hjson])
  · rw [Dict.get?_mapValues, Option.map_eq_some_iff] at hv
    obtain ⟨w, hw, rfl⟩ := hv
    obtain ⟨j, hplain, rfl⟩ := hp k w hw
    rwa [hjson]

section

variable {e e' : SyncEnvelope} {extra extra' : Dict JsonValue}

theorem rel_sameData_mapValues (k : String) :
    Option.Rel SameData ((extra.mapValues PyValue.ofJson).get? k)
        ((extra'.mapValues PyValue.ofJson).get? k)
      ↔ Option.Rel Agree (extra.get? k) (extra'.get? k) := by
  rw [Dict.get?_mapValues, Dict.get?_mapValues]
  cases extra.get? k <;> cases extra'.get? k <;> simp [sameData_ofJson_iff]

theorem agree_strings_iff {xs ys : List String} :
    Agree (.arr (xs.map .str)) (.arr (ys.map .str)) ↔ xs = ys :=
  agree_map_iff fun _ _ => agree_str_iff

theorem agree_payload_iff {p p' : SyncPayload} : Agree (p.wire extra) (p'.wire extra') ↔
    p.knownNodeIds = p'.knownNodeIds
      ∧ (∀ k, p.nodeCapabilities.get? k = p'.nodeCapabilities.get? k)
      ∧ (∀ k, p.nodeAvailability.get? k = p'.nodeAvailability.get? k)
      ∧ ∀ k, Option.Rel Agree (extra.get? k) (extra'.get? k) := by
  rw [SyncPayload.wire, SyncPayload.wire, agree_obj_iff_forall₂ (by rfl) (by simp)]
  simp only [List.forall₂_cons, List.forall₂_nil_right_iff, and_true, agree_strings_iff,
    agree_ofDict_iff fun _ _ => agree_strings_iff, agree_ofDict_iff fun _ _ => agree_str_iff]
  rw [agree_ofDict_iff']
  rfl

/-- The JSON forms agree exactly when the envelopes do, the timestamp through its text. -/
theorem agree_wire_iff (h : e.payload.extra = extra.mapValues .ofJson)
    (h' : e'.payload.extra = extra'.mapValues .ofJson) :
    Agree (e.wire extra) (e'.wire extra') ↔ e.SameSigned e' := by
  have htimestamp : String.ofList e.timestamp.isoformat = String.ofList e'.timestamp.isoformat
      ↔ e.timestamp = e'.timestamp := by
    rw [String.ofList_inj]
    exact DateTime.isoformat_injective.eq_iff
  have hversions : Agree (.obj [("versions", ofDict .int e.versionMap.versions)])
      (.obj [("versions", ofDict .int e'.versionMap.versions)])
      ↔ ∀ k, e.versionMap.versions.get? k = e'.versionMap.versions.get? k := by
    rw [agree_obj_iff_forall₂ (by rfl) (by simp)]
    simp only [List.forall₂_cons, List.forall₂_nil_right_iff, and_true,
      agree_ofDict_iff fun _ _ => agree_int_iff]
  rw [SyncEnvelope.wire, SyncEnvelope.wire, agree_obj_iff_forall₂ (by rfl) (by simp)]
  simp only [List.forall₂_cons, List.forall₂_nil_right_iff, and_true, agree_str_iff,
    agree_payload_iff, htimestamp, hversions]
  simp only [← rel_sameData_mapValues, ← h, ← h']
  constructor
  · rintro ⟨hid, hkey, hproto, htype, hvers, ⟨hknown, hcaps, havail, hextra⟩, htime, hmsg⟩
    exact ⟨hid, hkey, hproto, htype, hvers, hknown, hcaps, havail, hextra, htime, hmsg⟩
  · rintro ⟨hid, hkey, hproto, htype, hvers, hknown, hcaps, havail, hextra, htime, hmsg⟩
    exact ⟨hid, hkey, hproto, htype, hvers, ⟨hknown, hcaps, havail, hextra⟩, htime, hmsg⟩

/-- **Canonical signing bytes.** Envelopes with plain extras can always be serialized, and their
signed bytes are equal exactly when they agree on every field but the signature. -/
theorem getSignableBytes_eq_iff_sameSigned (he : e.payload.PlainExtra)
    (he' : e'.payload.PlainExtra) :
    (∃ bytes, getSignableBytes e = .ok bytes)
      ∧ (getSignableBytes e = getSignableBytes e' ↔ e.SameSigned e') := by
  obtain ⟨extra, hextra, hplain⟩ := he.exists_json
  obtain ⟨extra', hextra', hplain'⟩ := he'.exists_json
  rw [getSignableBytes_eq hextra hplain, getSignableBytes_eq hextra' hplain']
  refine ⟨⟨_, rfl⟩, ?_⟩
  rw [Except.ok.injEq, encodeUtf8_injective.eq_iff, String.ofList_inj,
    text_eq_iff (e.plain_wire hplain) (e'.plain_wire hplain'), agree_wire_iff hextra hextra']

end

/-- An unsigned envelope that carries nothing but an extra, loaded from `fields`. -/
def extraEnvelope (fields : Dict JsonValue) : SyncEnvelope where
  senderNodeId := "a"
  senderPublicKey := ""
  protocolVersion := syncProtocolVersion
  messageType := "sync_response"
  versionMap := ⟨∅⟩
  payload := ⟨[], ∅, ∅, fields.mapValues .ofJson⟩
  timestamp := DateTime.epoch
  messageId := "m"
  signature := ""

/-- Two nested extras that list their keys in opposite orders are signed as the same bytes. -/
theorem getSignableBytes_extraEnvelope_reordered :
    getSignableBytes (extraEnvelope ⟨[("b", .int 1), ("a", .obj [("y", .null), ("x", .int 2)])],
        by decide⟩)
      = getSignableBytes (extraEnvelope ⟨[("a", .obj [("x", .int 2), ("y", .null)]), ("b", .int 1)],
        by decide⟩) := by
  have hnested {fs : List (String × JsonValue)} (hfs : fs.Perm [("x", .int 2), ("y", .null)]) :
      (obj fs).Plain := by
    refine .obj ((hfs.map Prod.fst).nodup_iff.mpr (by decide)) fun f hf => ?_
    rcases List.mem_pair.mp (hfs.mem_iff.mp hf) with rfl | rfl
    · exact .int 2
    · exact .null
  have hplain {fs : Dict JsonValue} (hfs : ∀ f ∈ fs.entries, f.2.Plain) :
      (extraEnvelope fs).payload.PlainExtra := by
    intro k v hv
    rw [show (extraEnvelope fs).payload.extra = fs.mapValues .ofJson from rfl,
      Dict.get?_mapValues, Option.map_eq_some_iff] at hv
    obtain ⟨j, hj, rfl⟩ := hv
    exact ⟨j, hfs (k, j) (Dict.get?_eq_some_iff.mp hj), rfl⟩
  refine (getSignableBytes_eq_iff_sameSigned (hplain ?_) (hplain ?_)).2.mpr ?_
  · simp only [List.forall_mem_cons]
    exact ⟨.int 1, hnested (List.Perm.swap _ _ _), by simp⟩
  · simp only [List.forall_mem_cons]
    exact ⟨hnested (List.Perm.refl _), .int 1, by simp⟩
  · refine ⟨rfl, rfl, rfl, rfl, fun _ => rfl, rfl, fun _ => rfl, fun _ => rfl,
      fun k => ?_, rfl, rfl⟩
    refine (rel_sameData_mapValues k).mpr ?_
    simp only [Dict.get?, Dict.lookup_cons_eq]
    by_cases ha : k = "a"
    · subst ha
      exact .some (.obj (List.Perm.swap _ _ _) rfl (by simp [agree_refl]))
    · by_cases hb : k = "b"
      · subst hb
        exact .some (.int 1)
      · simp [ha, hb]

end Shyam
