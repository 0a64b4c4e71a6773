import Shyam.Lib.Checks
import Shyam.Trust.Models

/-!
# The trust store file

The file is modelled by what reading it finds: nothing, an unreadable file, blank text, text that is
not JSON, or a JSON value. Turning one record into JSON and back is pydantic's work and stays a
parameter; the dictionary around the records, the error cases and the order of the file operations
are the store's own.
-/

namespace Shyam

open Python

/-- pydantic's JSON dump and validation of a single `TrustRecord`. -/
structure RecordCodec where
  modelDump : TrustRecord → Except Exc JsonValue
  modelValidate : JsonValue → Except Exc TrustRecord

/-- A codec for services that are loaded already and never save: it refuses everything. -/
def RecordCodec.unused : RecordCodec where
  modelDump _ := .error ⟨"PydanticSerializationError", ""⟩
  modelValidate _ := .error ⟨"ValidationError", ""⟩

/-- What is dumped, with its keys sorted, validates, to a record related to the one dumped. -/
def RecordCodec.Restores (codec : RecordCodec) (R : TrustRecord → TrustRecord → Prop) : Prop :=
  ∀ record dumped, codec.modelDump record = .ok dumped →
    ∃ record', codec.modelValidate dumped.canon = .ok record' ∧ R record record'

theorem RecordCodec.Restores.mono {codec : RecordCodec} {R R' : TrustRecord → TrustRecord → Prop}
    (h : codec.Restores R) (himp : ∀ record record', R record record' → R' record record') :
    codec.Restores R' := by
  intro record dumped hdump
  obtain ⟨record', hrecord', hR⟩ := h record dumped hdump
  exact ⟨record', hrecord', himp _ _ hR⟩

inductive StoreFile where
  | absent
  | unreadable (oserror : String)
  | blank
  | malformed (decodeError : String)
  | json (data : JsonValue)

/-- The store's file, and the path its messages name. -/
structure TrustStore where
  path : String
  file : StoreFile

/-- A file operation of `save` that raises `OSError`. -/
inductive SaveFault where
  | mkdir (oserror : String)
  | write (oserror : String)
  | replace (oserror : String)

namespace TrustStore

def corrupted (store : TrustStore) (text : String) : Exc :=
  ⟨"TrustStoreCorruptionError",
    "Corrupted trust store file at '" ++ store.path ++ "': " ++ text⟩

def notPersisted (store : TrustStore) (text : String) : Exc :=
  ⟨"TrustStoreError", "Failed to persist trust store to '" ++ store.path ++ "': " ++ text⟩

/-- `{node_id: TrustRecord.model_validate(rec) for node_id, rec in data.items()}`; a repeated key
keeps its last value, as a parsed JSON object does. -/
def validateRecords (codec : RecordCodec) (data : List (String × JsonValue)) :
    Except Exc (Dict TrustRecord) :=
  data.foldlM (fun records entry => do
    let record ← codec.modelValidate entry.2
    return records.set entry.1 record) ∅

def load (codec : RecordCodec) (store : TrustStore) : Except Exc (Dict TrustRecord) :=
  match store.file with
  | .absent => .ok ∅
  | .unreadable text =>
      .error ⟨"TrustStoreError", "Failed to read trust store at '" ++ store.path ++ "': " ++ text⟩
  | .blank => .ok ∅
  | .malformed text => .error (store.corrupted text)
  | .json (.obj data) => (validateRecords codec data).mapError fun exc => store.corrupted exc.text
  -- Raised inside the `try`, but no clause of it catches this class.
  | .json data =>
      .error ⟨"TrustStoreCorruptionError",
        "Trust store content is not a JSON object: " ++ String.ofList data.text⟩

def dumpRecords (codec : RecordCodec) (records : Dict TrustRecord) :
    Except Exc (List (String × JsonValue)) :=
  records.entries.mapM fun entry => do
    let dumped ← codec.modelDump entry.2
    return (entry.1, dumped)

/-- The file changes only at the final `replace`; a serialization error is not an `OSError` and
passes through. -/
def save (codec : RecordCodec) (fault : Option SaveFault) (store : TrustStore)
    (records : Dict TrustRecord) : Except Exc Unit × TrustStore :=
  match fault with
  | some (.mkdir text) => (.error (store.notPersisted text), store)
  | _ =>
      match dumpRecords codec records with
      | .error exc => (.error exc, store)
      | .ok payload =>
          match fault with
          | some (.write text) => (.error (store.notPersisted text), store)
          | some (.replace text) => (.error (store.notPersisted text), store)
          | _ => (.ok (), { store with file := .json (JsonValue.canon (.obj payload)) })

variable {codec : RecordCodec} {R : TrustRecord → TrustRecord → Prop} {store : TrustStore}
  {fault : Option SaveFault} {records : Dict TrustRecord}

theorem save_of_error {exc : Exc} (h : (store.save codec fault records).1 = .error exc) :
    (store.save codec fault records).2 = store := by
  unfold save at h ⊢
  cases hdump : dumpRecords codec records with
  | error exc => rcases fault with _ | _ | _ | _ <;> simp
  | ok payload =>
      rcases fault with _ | _ | _ | _
      · simp [hdump] at h
      · rfl
      · simp
      · simp

theorem save_eq_ok_iff : (store.save codec fault records).1 = .ok ()
    ↔ fault = none ∧ ∀ nodeId record, records.get? nodeId = some record →
        ∃ dumped, codec.modelDump record = .ok dumped := by
  have hdumps : (∃ payload, dumpRecords codec records = .ok payload)
      ↔ ∀ nodeId record, records.get? nodeId = some record →
          ∃ dumped, codec.modelDump record = .ok dumped := by
    rw [dumpRecords, Checks.exists_mapM_eq_ok_iff]
    simp only [Checks.bind_eq_ok_iff, Dict.get?_eq_some_iff]
    constructor
    · intro h nodeId record hmem
      obtain ⟨_, dumped, hdumped, -⟩ := h _ hmem
      exact ⟨dumped, hdumped⟩
    · rintro h ⟨nodeId, record⟩ hmem
      obtain ⟨dumped, hdumped⟩ := h nodeId record hmem
      exact ⟨_, dumped, hdumped, rfl⟩
  rw [← hdumps]
  unfold save
  rcases fault with _ | _ | _ | _
  · cases dumpRecords codec records <;> simp
  · simp
  · cases dumpRecords codec records <;> simp
  · cases dumpRecords codec records <;> simp

/-! ### Reading back what was saved -/

theorem forall₂_dumpRecords {payload : List (String × JsonValue)}
    (h : dumpRecords codec records = .ok payload) :
    List.Forall₂ (fun entry field => field.1 = entry.1 ∧ codec.modelDump entry.2 = .ok field.2)
      records.entries payload := by
  refine (forall₂_of_mapM_eq_ok h).imp fun entry field hfield => ?_
  cases hdump : codec.modelDump entry.2 with
  | error exc =>
      rw [hdump] at hfield
      cases hfield
  | ok dumped =>
      rw [hdump] at hfield
      cases hfield
      exact ⟨rfl, rfl⟩

theorem validateRecords_eq_ok {data : List (String × JsonValue)}
    (hnodup : (data.map Prod.fst).Nodup)
    (hvalid : ∀ field ∈ data, ∃ record, codec.modelValidate field.2 = .ok record) :
    ∃ records, validateRecords codec data = .ok records ∧
      ∀ k, records.get? k = (data.lookup k).bind fun v => (codec.modelValidate v).toOption := by
  have hfold : ∀ acc : Dict TrustRecord, ∃ records,
      data.foldlM (fun records entry => do
        let record ← codec.modelValidate entry.2
        return records.set entry.1 record) acc = .ok records ∧
      ∀ k, records.get? k
        = ((data.lookup k).bind fun v => (codec.modelValidate v).toOption).or (acc.get? k) := by
    induction data with
    | nil => exact fun acc => ⟨acc, rfl, fun k => rfl⟩
    | cons field data ih =>
        intro acc
        rw [List.map_cons, List.nodup_cons] at hnodup
        obtain ⟨record, hrecord⟩ := hvalid field List.mem_cons_self
        obtain ⟨records, hrecords, hget⟩ := ih hnodup.2
          (fun field' hfield' => hvalid field' (List.mem_cons_of_mem _ hfield'))
          (acc.set field.1 record)
        refine ⟨records, ?_, fun k => ?_⟩
        · rw [List.foldlM_cons, hrecord]
          exact hrecords
        · rw [hget, Dict.lookup_cons_eq, Dict.get?_set]
          split_ifs with hk
          · rw [hk, Dict.lookup_eq_none_iff.mpr hnodup.1]
            simp [hrecord, Except.toOption]
          · rfl
  obtain ⟨records, hrecords, hget⟩ := hfold ∅
  refine ⟨records, hrecords, fun k => ?_⟩
  rw [hget, Dict.get?_empty, Option.or_none]

theorem exists_of_validateRecords {data : List (String × JsonValue)}
    (h : validateRecords codec data = .ok records) {k : String} {record : TrustRecord}
    (hrecord : records.get? k = some record) : ∃ v, codec.modelValidate v = .ok record := by
  suffices hfold : ∀ acc : Dict TrustRecord,
      (∀ record, acc.get? k = some record → ∃ v, codec.modelValidate v = .ok record) →
      data.foldlM (fun records entry => do
        let record ← codec.modelValidate entry.2
        return records.set entry.1 record) acc = .ok records →
      ∃ v, codec.modelValidate v = .ok record from
    hfold ∅ (fun record hempty => by simp at hempty) h
  clear h
  induction data with
  | nil =>
      intro acc hacc h
      cases h
      exact hacc record hrecord
  | cons entry data ih =>
      intro acc hacc h
      rw [List.foldlM_cons] at h
      cases hvalid : codec.modelValidate entry.2 with
      | error exc =>
          rw [hvalid] at h
          cases h
      | ok validated =>
          rw [hvalid] at h
          refine ih (acc.set entry.1 validated) (fun record hset => ?_) h
          rw [Dict.get?_set] at hset
          split_ifs at hset with hk
          · exact ⟨entry.2, Option.some.inj hset ▸ hvalid⟩
          · exact hacc record hset

theorem exists_of_load (h : store.load codec = .ok records) {k : String} {record : TrustRecord}
    (hrecord : records.get? k = some record) : ∃ v, codec.modelValidate v = .ok record := by
  unfold load at h
  split at h
  · cases h
    simp at hrecord
  · cases h
  · cases h
    simp at hrecord
  · cases h
  · rename_i data hfile
    cases hdata : validateRecords codec data with
    | error exc =>
        rw [hdata] at h
        cases h
    | ok loaded =>
        rw [hdata] at h
        cases h
        exact exists_of_validateRecords hdata hrecord
  · cases h

/-- **Reload.** A file that was saved loads, with the same keys and related records. -/
theorem load_save (hcodec : codec.Restores R)
    (hsave : (store.save codec fault records).1 = .ok ()) :
    ∃ records', (store.save codec fault records).2.load codec = .ok records'
      ∧ ∀ nodeId, Option.Rel R (records.get? nodeId) (records'.get? nodeId) := by
  obtain ⟨payload, hpayload, hfile⟩ : ∃ payload, dumpRecords codec records = .ok payload
      ∧ (store.save codec fault records).2
        = { store with file := .json (JsonValue.canon (.obj payload)) } := by
    unfold save at hsave ⊢
    cases hdump : dumpRecords codec records with
    | error exc => rcases fault with _ | _ | _ | _ <;> simp [hdump] at hsave
    | ok payload =>
        refine ⟨payload, rfl, ?_⟩
        rcases fault with _ | _ | _ | _
        · rfl
        · cases hsave
        · simp [hdump] at hsave
        · simp [hdump] at hsave
  have hfields := forall₂_dumpRecords hpayload
  have hnodup : (payload.map Prod.fst).Nodup :=
    Dict.map_fst_of_forall₂ (hfields.imp fun _ _ h => h.1) ▸ records.nodup
  -- What is found under a node id in the file is the dump of its record.
  set data := JsonValue.sortFields (payload.map fun field => (field.1, field.2.canon)) with hdata
  have hrel (nodeId : String) : Option.Rel
      (fun record v => ∃ dumped, codec.modelDump record = .ok dumped ∧ v = dumped.canon)
      (records.get? nodeId) (data.lookup nodeId) := by
    rw [hdata, JsonValue.lookup_sortFields_map_canon hnodup]
    have hfound : Option.Rel (fun record dumped => codec.modelDump record = .ok dumped)
        (records.get? nodeId) (payload.lookup nodeId) := Dict.rel_lookup hfields nodeId
    generalize records.get? nodeId = found at hfound ⊢
    generalize payload.lookup nodeId = dumped at hfound ⊢
    cases hfound with
    | none => exact .none
    | some hdump => exact .some ⟨_, hdump, rfl⟩
  have hsorted : (data.map Prod.fst).Nodup := JsonValue.nodup_sortFields_map_canon hnodup
  have hvalid : ∀ field ∈ data, ∃ record, codec.modelValidate field.2 = .ok record := by
    intro field hfield
    have hfound := hrel field.1
    rw [(Dict.lookup_eq_some_iff hsorted).mpr hfield] at hfound
    generalize records.get? field.1 = found at hfound
    cases hfound with
    | some hdump =>
        obtain ⟨dumped, hdumped, hvalue⟩ := hdump
        obtain ⟨record, hrecord, -⟩ := hcodec _ _ hdumped
        exact ⟨record, hvalue ▸ hrecord⟩
  obtain ⟨records', hload, hget⟩ := validateRecords_eq_ok hsorted hvalid
  refine ⟨records', ?_, fun nodeId => ?_⟩
  · rw [hfile, JsonValue.canon_obj]
    simp only [load, ← hdata, hload]
    rfl
  · have hfound := hrel nodeId
    rw [hget]
    generalize records.get? nodeId = found at hfound ⊢
    generalize data.lookup nodeId = value at hfound ⊢
    cases hfound with
    | none => exact .none
    | some hdump =>
        obtain ⟨dumped, hdumped, rfl⟩ := hdump
        obtain ⟨record', hrecord', hR⟩ := hcodec _ _ hdumped
        rw [Option.bind_some, hrecord']
        exact .some hR

end TrustStore

end Shyam
