import Shyam.Trust.Codec

/-!
# The trust service

Every operation holds the service's lock from start to end, so each is one transition. An operation
that raises keeps the state it had reached: a grant or a revocation has changed the record in memory
before it tries to persist it.
-/

namespace Shyam

open Python

structure TrustService where
  store : TrustStore
  records : Dict TrustRecord
  initialized : Bool

namespace TrustService

variable (codec : RecordCodec)

/-- The first read loads the file; a failed load raises and leaves the service as it was. -/
def ensureInitialized (t : TrustService) : Except Exc TrustService :=
  if t.initialized then .ok t
  else do
    let records ← t.store.load codec
    return { t with records := records, initialized := true }

def initializeRecords (t : TrustService) : Except Exc Unit × TrustService :=
  match t.ensureInitialized codec with
  | .error exc => (.error exc, t)
  | .ok t' => (.ok (), t')

/-- The record of a node, or an UNKNOWN record if there is none. -/
def getRecord (now : DateTime) (t : TrustService) (nodeId : String) :
    Except Exc TrustRecord × TrustService :=
  match t.ensureInitialized codec with
  | .error exc => (.error exc, t)
  | .ok t' => (.ok (t'.records.getD nodeId (TrustRecord.new nodeId .unknown now)), t')

def isTrusted (now : DateTime) (t : TrustService) (nodeId : String) :
    Except Exc Bool × TrustService :=
  let (record, t') := t.getRecord codec now nodeId
  (record.map TrustRecord.isTrusted, t')

/-- `self._records[node_id] = record; self._store.save(self._records)`. -/
def putRecord (fault : Option SaveFault) (t : TrustService) (nodeId : String)
    (record : TrustRecord) : Except Exc TrustRecord × TrustService :=
  let records := t.records.set nodeId record
  let (saved, store) := t.store.save codec fault records
  (saved.map fun _ => record, { t with records := records, store := store })

structure GrantArgs where
  relationship : RelationshipType := .personal
  «alias» : String := ""
  metadata : Option (Dict PyValue) := none

/-- The record a grant stores: new, or the existing one with its status, relationship, alias, key
and metadata updated. -/
def grantedRecord (existing : Option TrustRecord) (now : DateTime) (nodeId : String)
    (publicKey : Option String) (args : GrantArgs) : TrustRecord :=
  match existing with
  | none =>
      { TrustRecord.new nodeId .trusted now with
        publicKey := publicKey
        relationship := args.relationship
        «alias» := args.«alias»
        metadata := args.metadata.getD ∅ }
  | some existing =>
      existing.withStatus .trusted (some args.relationship)
        (orElse (some args.«alias») (some existing.«alias»))
        (orElse publicKey existing.publicKey)
        (some (args.metadata.getD existing.metadata)) now

def grantTrust (now : DateTime) (fault : Option SaveFault) (t : TrustService) (nodeId : String)
    (publicKey : Option String) (args : GrantArgs) : Except Exc TrustRecord × TrustService :=
  t.putRecord codec fault nodeId
    (grantedRecord (t.records.get? nodeId) now nodeId publicKey args)

/-- `reason` as stored: an empty or missing reason writes nothing. -/
def revokeMetadata (metadata : Dict PyValue) (reason : Option String) : Dict PyValue :=
  match orElse reason none with
  | some text => metadata.set "revoke_reason" (.str text)
  | none => metadata

def revokedRecord (existing : Option TrustRecord) (now : DateTime) (nodeId : String)
    (reason : Option String) : TrustRecord :=
  match existing with
  | none => { TrustRecord.new nodeId .revoked now with metadata := revokeMetadata ∅ reason }
  | some existing =>
      existing.withStatus .revoked none none none
        (some (revokeMetadata existing.metadata reason)) now

def revokeTrust (now : DateTime) (fault : Option SaveFault) (t : TrustService) (nodeId : String)
    (reason : Option String) : Except Exc TrustRecord × TrustService :=
  t.putRecord codec fault nodeId (revokedRecord (t.records.get? nodeId) now nodeId reason)

def listRecords (t : TrustService) (statusFilter : Option TrustStatus) :
    Except Exc (List TrustRecord) × TrustService :=
  match t.ensureInitialized codec with
  | .error exc => (.error exc, t)
  | .ok t' =>
      let records := t'.records.entries.map Prod.snd
      match statusFilter with
      | none => (.ok records, t')
      | some status => (.ok (records.filter fun r => r.status = status), t')

def getTrustedNodeIds (t : TrustService) : Except Exc (PySet String) × TrustService :=
  let (records, t') := t.listRecords codec (some .trusted)
  (records.map fun rs => PySet.empty.update (rs.map TrustRecord.nodeId), t')

/-! ### What an operation leaves behind -/

variable {codec} {now : DateTime} {fault : Option SaveFault} {t : TrustService}
  {nodeId other : String} {publicKey reason : Option String} {args : GrantArgs}

theorem ensureInitialized_of_initialized (h : t.initialized = true) :
    t.ensureInitialized codec = .ok t := if_pos h

theorem getRecord_of_initialized (h : t.initialized = true) :
    t.getRecord codec now nodeId
      = (.ok (t.records.getD nodeId (TrustRecord.new nodeId .unknown now)), t) := by
  rw [getRecord, ensureInitialized_of_initialized h]

/-- Persisted or not, the record is in memory afterwards and every other record is untouched. -/
@[simp] theorem putRecord_records {record : TrustRecord} :
    (t.putRecord codec fault nodeId record).2.records = t.records.set nodeId record := rfl

@[simp] theorem putRecord_initialized {record : TrustRecord} :
    (t.putRecord codec fault nodeId record).2.initialized = t.initialized := rfl

@[simp] theorem grantTrust_initialized :
    (t.grantTrust codec now fault nodeId publicKey args).2.initialized = t.initialized := rfl

@[simp] theorem grantTrust_records :
    (t.grantTrust codec now fault nodeId publicKey args).2.records.get? other
      = if other = nodeId then
          some (grantedRecord (t.records.get? nodeId) now nodeId publicKey args)
        else t.records.get? other := by
  rw [grantTrust, putRecord_records, Dict.get?_set]

@[simp] theorem grantedRecord_status {existing : Option TrustRecord} :
    (grantedRecord existing now nodeId publicKey args).status = .trusted := by
  cases existing <;> rfl

/-- A grant pins the key it is given; without one it keeps the key it had. -/
theorem grantedRecord_publicKey {existing : Option TrustRecord} {key : String} (h : key ≠ "") :
    (grantedRecord existing now nodeId (some key) args).publicKey = some key := by
  cases existing <;> simp [grantedRecord, TrustRecord.withStatus, orElse_some h]

theorem save_of_putRecord {record written : TrustRecord}
    (hput : (t.putRecord codec fault nodeId record).1 = .ok written) :
    (t.store.save codec fault (t.records.set nodeId record)).1 = .ok () := by
  cases hsave : (t.store.save codec fault (t.records.set nodeId record)).1 with
  | error exc =>
      simp only [putRecord, hsave, Except.map] at hput
      cases hput
  | ok => rfl

/-- After a write on a service that is not loaded yet, the next read finds what was written. -/
theorem ensureInitialized_putRecord_of_ok {R : TrustRecord → TrustRecord → Prop}
    {record written : TrustRecord} (hcodec : codec.Restores R) (hinit : ¬t.initialized = true)
    (hput : (t.putRecord codec fault nodeId record).1 = .ok written) :
    ∃ t', (t.putRecord codec fault nodeId record).2.ensureInitialized codec = .ok t'
      ∧ ∀ other, Option.Rel R ((t.putRecord codec fault nodeId record).2.records.get? other)
          (t'.records.get? other) := by
  obtain ⟨records, hload, hrel⟩ := TrustStore.load_save hcodec (save_of_putRecord hput)
  refine ⟨{ (t.putRecord codec fault nodeId record).2 with
    records := records, initialized := true }, ?_, hrel⟩
  have hstore : (t.putRecord codec fault nodeId record).2.store.load codec = .ok records := hload
  rw [ensureInitialized, putRecord_initialized, if_neg hinit, hstore]
  rfl

/-- After a failed one, it finds what it would have found before. -/
theorem ensureInitialized_putRecord_of_error {record : TrustRecord} {exc : Exc}
    (hinit : ¬t.initialized = true)
    (hput : (t.putRecord codec fault nodeId record).1 = .error exc) :
    (t.putRecord codec fault nodeId record).2.ensureInitialized codec
      = t.ensureInitialized codec := by
  have hstore : (t.putRecord codec fault nodeId record).2.store = t.store := by
    cases hsave : (t.store.save codec fault (t.records.set nodeId record)).1 with
    | error exc => exact TrustStore.save_of_error hsave
    | ok =>
        simp only [putRecord, hsave, Except.map] at hput
        cases hput
  rw [ensureInitialized, ensureInitialized, putRecord_initialized, if_neg hinit,
    if_neg hinit, hstore]

/-! ### Pinned keys -/

theorem initialized_of_ensureInitialized {t' : TrustService}
    (h : t.ensureInitialized codec = .ok t') : t'.initialized = true := by
  unfold ensureInitialized at h
  split_ifs at h with hinit
  · cases h
    exact hinit
  · cases hload : t.store.load codec with
    | error exc =>
        rw [hload] at h
        cases h
    | ok records =>
        rw [hload] at h
        cases h
        rfl

/-- A dumped record validates with the same standing and key. -/
def KeepsStanding (record record' : TrustRecord) : Prop :=
  record'.status = record.status ∧ record'.publicKey = record.publicKey

theorem keepsStanding {scalars : ScalarCodec} (hscalars : scalars.Lawful) :
    scalars.recordCodec.Restores KeepsStanding :=
  (ScalarCodec.restores hscalars).mono fun _ _ h => ⟨h.1.status, h.1.publicKey⟩

/-- Reading the record of the node finds it trusted, with the key pinned. -/
def Pins (codec : RecordCodec) (t : TrustService) (nodeId key : String) : Prop :=
  ∃ t', t.ensureInitialized codec = .ok t' ∧ ∃ record, t'.records.get? nodeId = some record
    ∧ record.status = .trusted ∧ record.publicKey = some key

/-- A service that pins a key answers every read, and still pins it afterwards. -/
theorem Pins.getRecord {key : String} (h : t.Pins codec nodeId key) (now : DateTime)
    (other : String) : ∃ t', t.getRecord codec now other
        = (.ok (t'.records.getD other (TrustRecord.new other .unknown now)), t')
      ∧ t'.initialized = true ∧ t'.Pins codec nodeId key := by
  obtain ⟨t', ht', hrecord⟩ := h
  have hinit := initialized_of_ensureInitialized ht'
  refine ⟨t', ?_, hinit, t', ensureInitialized_of_initialized hinit, hrecord⟩
  rw [TrustService.getRecord, ht']

theorem Pins.record {key : String} (h : t.Pins codec nodeId key) (now : DateTime) :
    ∃ record, (t.getRecord codec now nodeId).1 = .ok record ∧ record.status = .trusted
      ∧ record.publicKey = some key := by
  obtain ⟨t', ht', record, hrecord, hstatus, hkey⟩ := h
  refine ⟨record, ?_, hstatus, hkey⟩
  simp only [TrustService.getRecord, ht', Dict.getD, hrecord, Option.getD_some]

/-- On a loaded service, what is pinned is what the record in memory says. -/
theorem pins_of_initialized {key : String} {record : TrustRecord} (hinit : t.initialized = true)
    (hrecord : t.records.get? nodeId = some record) (hstatus : record.status = .trusted)
    (hkey : record.publicKey = some key) : t.Pins codec nodeId key :=
  ⟨t, ensureInitialized_of_initialized hinit, record, hrecord, hstatus, hkey⟩

/-- **A grant that succeeds pins its key**, also when the next read loads the file again. -/
theorem pins_grantTrust {key : String} {record : TrustRecord}
    (hcodec : codec.Restores KeepsStanding) (hkey : key ≠ "")
    (hgrant : (t.grantTrust codec now fault nodeId (some key) args).1 = .ok record) :
    (t.grantTrust codec now fault nodeId (some key) args).2.Pins codec nodeId key := by
  have hmemory : (t.grantTrust codec now fault nodeId (some key) args).2.records.get? nodeId
      = some (grantedRecord (t.records.get? nodeId) now nodeId (some key) args) := by
    rw [grantTrust_records, if_pos rfl]
  by_cases hinit : t.initialized = true
  · exact pins_of_initialized (grantTrust_initialized.trans hinit) hmemory grantedRecord_status
      (grantedRecord_publicKey hkey)
  · obtain ⟨t', ht', hrel⟩ := ensureInitialized_putRecord_of_ok hcodec hinit hgrant
    have hfound := hrel nodeId
    rw [← grantTrust, hmemory] at hfound
    generalize hrecord : t'.records.get? nodeId = found at hfound
    cases hfound with
    | some hkeeps =>
        exact ⟨t', ht', _, hrecord, hkeeps.1.trans grantedRecord_status,
          hkeeps.2.trans (grantedRecord_publicKey hkey)⟩

/-- A loaded service that trusts the given nodes and pins no key. -/
def trusting (nodeIds : PySet String) : TrustService where
  store := ⟨"trust_store.json", .absent⟩
  records := Dict.ofKeys nodeIds fun nodeId => TrustRecord.new nodeId .trusted DateTime.epoch
  initialized := true

theorem getRecord_trusting {nodeIds : PySet String} (h : nodeId ∈ nodeIds) :
    ((trusting nodeIds).getRecord codec now nodeId).1
      = .ok (TrustRecord.new nodeId .trusted DateTime.epoch) := by
  rw [getRecord_of_initialized rfl, Dict.getD, trusting, Dict.get?_ofKeys, if_pos h]
  rfl

end TrustService

end Shyam
