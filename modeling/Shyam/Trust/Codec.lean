import Shyam.Trust.Store

/-!
# A trust record as JSON

pydantic converts a record field by field. The conversions of timestamps and of arbitrary metadata
values are parameters; the fields, their defaults and the checks of the enumerations are the
model's. A reloaded record has the same scalar fields, and JSON metadata that is equal up to the
order of keys.
-/

namespace Shyam

open Python

/-- The conversions pydantic brings, the clock reading a missing timestamp defaults to, and the text
of a failed validation. -/
structure ScalarCodec where
  dumpDateTime : DateTime → String
  validateDateTime : JsonValue → Option DateTime
  dumpAny : PyValue → Except Exc JsonValue
  now : DateTime
  errorText : JsonValue → String

/-- A timestamp validates from its dump, and a value of JSON type is dumped as itself. -/
structure ScalarCodec.Lawful (scalars : ScalarCodec) : Prop where
  validateDateTime_dump : ∀ t, scalars.validateDateTime (.str (scalars.dumpDateTime t)) = some t
  dumpAny_ofJson : ∀ j, scalars.dumpAny (.ofJson j) = .ok j

namespace TrustRecord

def optionalStr : Option String → JsonValue
  | none => .null
  | some s => .str s

def validateStr : JsonValue → Option String
  | .str s => some s
  | _ => none

def validateOptionalStr : JsonValue → Option (Option String)
  | .null => some none
  | .str s => some (some s)
  | _ => none

/-- A `dict[str, Any]`; a repeated key keeps its last value. -/
def validateMetadata : JsonValue → Option (Dict PyValue)
  | .obj fields => some (fields.foldl (fun d field => d.set field.1 (.ofJson field.2)) ∅)
  | _ => none

/-- A field that is missing takes its default, which is not validated. -/
def validateField {α : Type} (fields : List (String × JsonValue)) (name : String)
    (validate : JsonValue → Option α) (default : α) : Option α :=
  match fields.lookup name with
  | none => some default
  | some v => validate v

/-- `record.model_dump(mode="json")`. -/
def modelDump (scalars : ScalarCodec) (record : TrustRecord) : Except Exc JsonValue := do
  let metadata ← record.metadata.entries.mapM fun field => do
    let value ← scalars.dumpAny field.2
    return (field.1, value)
  return .obj [
    ("node_id", .str record.nodeId),
    ("public_key", optionalStr record.publicKey),
    ("status", .str record.status.value),
    ("relationship", .str record.relationship.value),
    ("alias", .str record.«alias»),
    ("created_at", .str (scalars.dumpDateTime record.createdAt)),
    ("updated_at", .str (scalars.dumpDateTime record.updatedAt)),
    ("metadata", .obj metadata)]

def validateFields (scalars : ScalarCodec) (fields : List (String × JsonValue)) :
    Option TrustRecord := do
  let nodeId ← (fields.lookup "node_id").bind validateStr
  let publicKey ← validateField fields "public_key" validateOptionalStr none
  let status ← validateField fields "status" (fun v => (validateStr v).bind TrustStatus.ofValue?)
    .unknown
  let relationship ← validateField fields "relationship"
    (fun v => (validateStr v).bind RelationshipType.ofValue?) .none
  let name ← validateField fields "alias" validateStr ""
  let createdAt ← validateField fields "created_at" scalars.validateDateTime scalars.now
  let updatedAt ← validateField fields "updated_at" scalars.validateDateTime scalars.now
  let metadata ← validateField fields "metadata" validateMetadata ∅
  return ⟨nodeId, publicKey, status, relationship, name, createdAt, updatedAt, metadata⟩

/-- `TrustRecord.model_validate(v)`; fields it does not know are ignored. -/
def modelValidate (scalars : ScalarCodec) (v : JsonValue) : Except Exc TrustRecord :=
  match v with
  | .obj fields =>
      match validateFields scalars fields with
      | some record => .ok record
      | none => .error ⟨"ValidationError", scalars.errorText v⟩
  | _ => .error ⟨"ValidationError", scalars.errorText v⟩

end TrustRecord

def ScalarCodec.recordCodec (scalars : ScalarCodec) : RecordCodec where
  modelDump := TrustRecord.modelDump scalars
  modelValidate := TrustRecord.modelValidate scalars

/-! ### Equality of records -/

namespace TrustRecord

/-- Equal, or JSON values that differ in the order of keys only. -/
def SameValue (v w : PyValue) : Prop :=
  v = w ∨ ∃ i j, v = .ofJson i ∧ w = .ofJson j ∧ j.Agree i

/-- Every field but the metadata is equal. -/
structure SameScalars (record record' : TrustRecord) : Prop where
  nodeId : record'.nodeId = record.nodeId
  publicKey : record'.publicKey = record.publicKey
  status : record'.status = record.status
  relationship : record'.relationship = record.relationship
  «alias» : record'.«alias» = record.«alias»
  createdAt : record'.createdAt = record.createdAt
  updatedAt : record'.updatedAt = record.updatedAt

/-- Every metadata value is one that JSON has a form for. -/
def HasJsonMetadata (record : TrustRecord) : Prop :=
  ∀ k v, record.metadata.get? k = some v → ∃ j, v = .ofJson j

/-- Equality of two records: dictionaries compare without regard to the order of keys. -/
structure Same (record record' : TrustRecord) : Prop where
  scalars : SameScalars record record'
  metadata : ∀ k, Option.Rel SameValue (record.metadata.get? k) (record'.metadata.get? k)

@[refl] theorem Same.refl (record : TrustRecord) : Same record record := by
  refine ⟨⟨rfl, rfl, rfl, rfl, rfl, rfl, rfl⟩, fun k => ?_⟩
  cases record.metadata.get? k with
  | none => exact .none
  | some v => exact .some (Or.inl rfl)

variable {scalars : ScalarCodec} {record : TrustRecord} {dumped : JsonValue}

theorem validateOptionalStr_optionalStr (s : Option String) :
    validateOptionalStr (optionalStr s) = some s := by
  cases s <;> rfl

theorem validateMetadata_obj {fields : List (String × JsonValue)}
    (hnodup : (fields.map Prod.fst).Nodup) :
    ∃ metadata, validateMetadata (.obj fields) = some metadata
      ∧ ∀ k, metadata.get? k = (fields.lookup k).map .ofJson := by
  have hfold : ∀ d : Dict PyValue, ∀ k,
      (fields.foldl (fun d field => d.set field.1 (.ofJson field.2)) d).get? k
        = ((fields.lookup k).map .ofJson).or (d.get? k) := by
    induction fields with
    | nil => exact fun d k => rfl
    | cons field fields ih =>
        intro d k
        rw [List.map_cons, List.nodup_cons] at hnodup
        rw [List.foldl_cons, ih hnodup.2, Dict.lookup_cons_eq, Dict.get?_set]
        split_ifs with hk
        · rw [hk, Dict.lookup_eq_none_iff.mpr hnodup.1]
          rfl
        · rfl
  refine ⟨_, rfl, fun k => ?_⟩
  rw [hfold, Dict.get?_empty, Option.or_none]

def dumpedFields (scalars : ScalarCodec) (record : TrustRecord)
    (metadata : List (String × JsonValue)) : List (String × JsonValue) := [
  ("node_id", .str record.nodeId),
  ("public_key", optionalStr record.publicKey),
  ("status", .str record.status.value),
  ("relationship", .str record.relationship.value),
  ("alias", .str record.«alias»),
  ("created_at", .str (scalars.dumpDateTime record.createdAt)),
  ("updated_at", .str (scalars.dumpDateTime record.updatedAt)),
  ("metadata", .obj metadata)]

theorem modelDump_eq_ok (hdump : modelDump scalars record = .ok dumped) :
    ∃ metadata, dumped = .obj (dumpedFields scalars record metadata)
      ∧ List.Forall₂ (fun entry field => field.1 = entry.1 ∧ scalars.dumpAny entry.2 = .ok field.2)
          record.metadata.entries metadata := by
  unfold modelDump at hdump
  cases hmetadata : record.metadata.entries.mapM fun field => do
      let value ← scalars.dumpAny field.2
      return (field.1, value) with
  | error exc =>
      rw [hmetadata] at hdump
      cases hdump
  | ok metadata =>
      rw [hmetadata] at hdump
      cases hdump
      refine ⟨metadata, rfl, (forall₂_of_mapM_eq_ok hmetadata).imp fun entry field hfield => ?_⟩
      cases hvalue : scalars.dumpAny entry.2 with
      | error exc =>
          rw [hvalue] at hfield
          cases hfield
      | ok value =>
          rw [hvalue] at hfield
          cases hfield
          exact ⟨rfl, rfl⟩

theorem exists_modelDump_iff : (∃ dumped, modelDump scalars record = .ok dumped)
    ↔ ∀ k v, record.metadata.get? k = some v → ∃ j, scalars.dumpAny v = .ok j := by
  have hmetadata := Checks.exists_mapM_eq_ok_iff (l := record.metadata.entries)
    (f := fun field => do
      let value ← scalars.dumpAny field.2
      return (field.1, value))
  simp only [modelDump, Checks.bind_eq_ok_iff, Checks.pure_eq_ok_iff,
    Dict.get?_eq_some_iff] at hmetadata ⊢
  constructor
  · rintro ⟨_, metadata, hdumped, -⟩ k v hmem
    obtain ⟨_, j, hj, -⟩ := hmetadata.mp ⟨metadata, hdumped⟩ (k, v) hmem
    exact ⟨j, hj⟩
  · intro h
    obtain ⟨metadata, hdumped⟩ := hmetadata.mpr fun ⟨k, v⟩ hmem => by
      obtain ⟨j, hj⟩ := h k v hmem
      exact ⟨_, j, hj, rfl⟩
    exact ⟨_, metadata, hdumped, rfl⟩

theorem validateMetadata_canon {entries : Dict PyValue} {metadata : List (String × JsonValue)}
    (hdump : List.Forall₂
      (fun entry field => field.1 = entry.1 ∧ scalars.dumpAny entry.2 = .ok field.2)
      entries.entries metadata) :
    ∃ entries', validateMetadata (JsonValue.obj metadata).canon = some entries'
      ∧ ∀ k, Option.Rel (fun v w => ∃ j, scalars.dumpAny v = .ok j ∧ w = .ofJson j.canon)
          (entries.get? k) (entries'.get? k) := by
  have hnodup : (metadata.map Prod.fst).Nodup :=
    Dict.map_fst_of_forall₂ (hdump.imp fun _ _ h => h.1) ▸ entries.nodup
  have hsorted : ((JsonValue.sortFields (metadata.map fun f => (f.1, f.2.canon))).map
      Prod.fst).Nodup := JsonValue.nodup_sortFields_map_canon hnodup
  obtain ⟨entries', hvalidate, hget⟩ := validateMetadata_obj hsorted
  refine ⟨entries', by rw [JsonValue.canon_obj, hvalidate], fun k => ?_⟩
  have hfound : Option.Rel (fun v j => scalars.dumpAny v = .ok j) (entries.get? k)
      (metadata.lookup k) := Dict.rel_lookup hdump k
  rw [hget, JsonValue.lookup_sortFields_map_canon hnodup]
  generalize entries.get? k = found at hfound ⊢
  generalize metadata.lookup k = value at hfound ⊢
  cases hfound with
  | none => exact .none
  | some hvalue => exact .some ⟨_, hvalue, rfl⟩

theorem validateFields_dumpedFields (hscalars : scalars.Lawful)
    {metadata : List (String × JsonValue)} {entries : Dict PyValue}
    (hmetadata : validateMetadata (JsonValue.obj metadata).canon = some entries) :
    validateFields scalars (JsonValue.sortFields
        ((dumpedFields scalars record metadata).map fun f => (f.1, f.2.canon)))
      = some { record with metadata := entries } := by
  have hnodup : ((dumpedFields scalars record metadata).map Prod.fst).Nodup := by
    simp [dumpedFields]
  have hlookup := JsonValue.lookup_sortFields_map_canon hnodup
  have hkey : (optionalStr record.publicKey).canon = optionalStr record.publicKey := by
    cases record.publicKey <;> rfl
  rw [JsonValue.canon] at hmetadata
  simp only [validateFields, validateField, hlookup]
  simp [dumpedFields, List.lookup_cons, JsonValue.canon, validateStr, hkey,
    validateOptionalStr_optionalStr, TrustStatus.ofValue?_value, RelationshipType.ofValue?_value,
    hscalars.validateDateTime_dump, hmetadata]

/-- **A record reloads.** What a record is dumped as, with its keys sorted, validates to a record
with the same scalar fields, and with the same metadata if that was JSON. -/
theorem modelValidate_modelDump (hscalars : scalars.Lawful)
    (hdump : modelDump scalars record = .ok dumped) :
    ∃ record', modelValidate scalars dumped.canon = .ok record' ∧ SameScalars record record'
      ∧ (HasJsonMetadata record → Same record record') := by
  obtain ⟨metadata, rfl, hentries⟩ := modelDump_eq_ok hdump
  obtain ⟨entries, hmetadata, hrel⟩ := validateMetadata_canon hentries
  refine ⟨{ record with metadata := entries }, ?_, ⟨rfl, rfl, rfl, rfl, rfl, rfl, rfl⟩, ?_⟩
  · rw [JsonValue.canon_obj, modelValidate, validateFields_dumpedFields hscalars hmetadata]
  · intro hjson
    refine ⟨⟨rfl, rfl, rfl, rfl, rfl, rfl, rfl⟩, fun k => ?_⟩
    have hfound := hrel k
    have hvalue := hjson k
    change Option.Rel SameValue _ (entries.get? k)
    generalize record.metadata.get? k = found at hfound hvalue ⊢
    generalize entries.get? k = reloaded at hfound ⊢
    cases hfound with
    | none => exact .none
    | some hdumped =>
        obtain ⟨j, hj, rfl⟩ := hdumped
        obtain ⟨i, rfl⟩ := hvalue _ rfl
        rw [hscalars.dumpAny_ofJson, Except.ok.injEq] at hj
        subst hj
        exact .some (Or.inr ⟨i, i.canon, rfl, rfl, JsonValue.agree_canon i⟩)

theorem ofJson_of_validateMetadata {v : JsonValue} {metadata : Dict PyValue}
    (h : validateMetadata v = some metadata) {k : String} {w : PyValue}
    (hw : metadata.get? k = some w) : ∃ j, w = .ofJson j := by
  cases v with
  | obj fields =>
      rw [validateMetadata, Option.some.injEq] at h
      subst h
      revert w
      suffices hfold : ∀ d : Dict PyValue, (∀ w, d.get? k = some w → ∃ j, w = .ofJson j) →
          ∀ w, (fields.foldl (fun d field => d.set field.1 (.ofJson field.2)) d).get? k = some w →
            ∃ j, w = .ofJson j from
        fun w hw => hfold ∅ (fun w hempty => by simp at hempty) w hw
      induction fields with
      | nil => exact fun d hd => hd
      | cons field fields ih =>
          refine fun d hd => ih _ fun w hset => ?_
          rw [Dict.get?_set] at hset
          split_ifs at hset with hk
          · exact ⟨field.2, (Option.some.inj hset).symm⟩
          · exact hd w hset
  | _ => cases h

theorem hasJsonMetadata_of_modelValidate {v : JsonValue}
    (h : modelValidate scalars v = .ok record) : record.HasJsonMetadata := by
  cases v with
  | obj fields =>
      rw [modelValidate] at h
      cases hfields : validateFields scalars fields with
      | none =>
          rw [hfields] at h
          cases h
      | some record' =>
          rw [hfields, Except.ok.injEq] at h
          subst h
          simp only [validateFields, Option.bind_eq_bind, Option.bind_eq_some_iff] at hfields
          obtain ⟨nodeId, -, publicKey, -, status, -, relationship, -, name, -, createdAt, -,
            updatedAt, -, metadata, hmetadata, hrecord⟩ := hfields
          cases hrecord
          intro k w hw
          unfold validateField at hmetadata
          cases hlookup : fields.lookup "metadata" with
          | none =>
              rw [hlookup] at hmetadata
              cases hmetadata
              simp at hw
          | some v =>
              rw [hlookup] at hmetadata
              exact ofJson_of_validateMetadata hmetadata hw
  | _ => cases h

end TrustRecord

namespace ScalarCodec

variable {scalars : ScalarCodec}

/-- **A dumped record validates** to one with the same scalar fields. -/
theorem restores (hscalars : scalars.Lawful) : scalars.recordCodec.Restores fun record record' =>
    record.SameScalars record' ∧ (record.HasJsonMetadata → record.Same record') := by
  intro record dumped hdump
  obtain ⟨record', hvalidate, hsame⟩ := TrustRecord.modelValidate_modelDump hscalars hdump
  exact ⟨record', hvalidate, hsame⟩

open Classical in
/-- Timestamps as pydantic writes them, read back from exactly the texts that are written, and
metadata in its JSON form. -/
noncomputable def iso : ScalarCodec where
  dumpDateTime t := String.ofList t.isoText
  validateDateTime
    | .str s => if h : ∃ t : DateTime, t.isoText = s.toList then some h.choose else none
    | _ => none
  dumpAny := PyValue.toJson
  now := .epoch
  errorText _ := "1 validation error for TrustRecord"

theorem iso_lawful : iso.Lawful where
  validateDateTime_dump t := by
    have hread : ∃ t' : DateTime, t'.isoText = (String.ofList t.isoText).toList :=
      ⟨t, String.toList_ofList.symm⟩
    simp only [iso, dif_pos hread, Option.some.injEq]
    exact DateTime.isoText_injective (hread.choose_spec.trans String.toList_ofList)
  dumpAny_ofJson := PyValue.toJson_ofJson

end ScalarCodec

end Shyam
