import Shyam.Trust.Service
import Shyam.Lib.Run

/-!
# Sequences of trust operations

Every read loads the file first, a grant or a revocation does not. Once the file is loaded, a record
that nobody names stays in memory and is written back by every save, and a fresh service over the
same file finds what the old one holds. A write that comes before the first read replaces the whole
file by the one record it brings.
-/

namespace Shyam

open Python Transition

namespace TrustService

/-- A call on the service, with the clock reading and the file operation that fails, if any. -/
inductive Op where
  | initializeRecords
  | getRecord (now : DateTime) (nodeId : String)
  | isTrusted (now : DateTime) (nodeId : String)
  | grantTrust (now : DateTime) (fault : Option SaveFault) (nodeId : String)
      (publicKey : Option String) (args : GrantArgs)
  | revokeTrust (now : DateTime) (fault : Option SaveFault) (nodeId : String)
      (reason : Option String)
  | listRecords (statusFilter : Option TrustStatus)
  | getTrustedNodeIds

inductive Answer where
  | unit (result : Except Exc Unit)
  | record (result : Except Exc TrustRecord)
  | bool (result : Except Exc Bool)
  | records (result : Except Exc (List TrustRecord))
  | nodeIds (result : Except Exc (PySet String))

def Answer.Succeeds : Answer → Prop
  | unit result => ∃ v, result = .ok v
  | record result => ∃ v, result = .ok v
  | bool result => ∃ v, result = .ok v
  | records result => ∃ v, result = .ok v
  | nodeIds result => ∃ v, result = .ok v

variable (codec : RecordCodec)

def call (t : TrustService) : Op → Answer × TrustService
  | .initializeRecords => (t.initializeRecords codec).map .unit id
  | .getRecord now nodeId => (t.getRecord codec now nodeId).map .record id
  | .isTrusted now nodeId => (t.isTrusted codec now nodeId).map .bool id
  | .grantTrust now fault nodeId publicKey args =>
      (t.grantTrust codec now fault nodeId publicKey args).map .record id
  | .revokeTrust now fault nodeId reason =>
      (t.revokeTrust codec now fault nodeId reason).map .record id
  | .listRecords statusFilter => (t.listRecords codec statusFilter).map .records id
  | .getTrustedNodeIds => (t.getTrustedNodeIds codec).map .nodeIds id

def perform (t : TrustService) (op : Op) : TrustService := (t.call codec op).2

def fresh (store : TrustStore) : TrustService := ⟨store, ∅, false⟩

/-- The node whose record a grant or a revocation writes. -/
def Op.written : Op → Option String
  | .grantTrust _ _ nodeId _ _ => some nodeId
  | .revokeTrust _ _ nodeId _ => some nodeId
  | _ => none

/-- A grant or a revocation finds the file loaded. -/
def WritesLoaded (t : TrustService) (op : Op) : Prop := op.written ≠ none → t.initialized = true

variable {codec} {t t' : TrustService} {op : Op} {nodeId : String}

theorem ensureInitialized_store (h : t.ensureInitialized codec = .ok t') : t'.store = t.store := by
  unfold ensureInitialized at h
  split_ifs at h
  · cases h
    rfl
  · cases hload : t.store.load codec with
    | error exc =>
        rw [hload] at h
        cases h
    | ok records =>
        rw [hload] at h
        cases h
        rfl

/-- A read answers, and leaves behind, what it does on the service with its file loaded. -/
theorem call_of_read (hread : op.written = none) (h : t.ensureInitialized codec = .ok t') :
    t.call codec op = t'.call codec op ∧ (t.call codec op).2 = t' := by
  have hloaded : t'.ensureInitialized codec = .ok t' :=
    ensureInitialized_of_initialized (initialized_of_ensureInitialized h)
  cases op with
  | initializeRecords => simp [call, initializeRecords, h, hloaded]
  | getRecord now nodeId => simp [call, getRecord, h, hloaded]
  | isTrusted now nodeId => simp [call, isTrusted, getRecord, h, hloaded]
  | grantTrust now fault nodeId publicKey args => cases hread
  | revokeTrust now fault nodeId reason => cases hread
  | listRecords statusFilter =>
      cases statusFilter <;> simp [call, listRecords, h, hloaded]
  | getTrustedNodeIds => simp [call, getTrustedNodeIds, listRecords, h, hloaded]

theorem call_of_write (codec : RecordCodec) (t : TrustService)
    (hwritten : op.written = some nodeId) : ∃ fault record,
      t.call codec op = (t.putRecord codec fault nodeId record).map .record id := by
  cases op with
  | grantTrust now fault other publicKey args =>
      cases hwritten
      exact ⟨fault, _, rfl⟩
  | revokeTrust now fault other reason =>
      cases hwritten
      exact ⟨fault, _, rfl⟩
  | _ => cases hwritten

/-! ### Records that nobody names -/

/-- The record of the node, or its absence, is the persisted one, in what the next read finds and in
the file. -/
structure Keeps (codec : RecordCodec) (persisted : Dict TrustRecord) (nodeId : String)
    (t : TrustService) : Prop where
  read : ∃ t', t.ensureInitialized codec = .ok t'
    ∧ t'.records.get? nodeId = persisted.get? nodeId
  file : ∃ saved, t.store.load codec = .ok saved
    ∧ Option.Rel TrustRecord.Same (persisted.get? nodeId) (saved.get? nodeId)

variable {scalars : ScalarCodec} {persisted : Dict TrustRecord} {fault : Option SaveFault}

theorem hasJsonMetadata_of_load {store : TrustStore} {records : Dict TrustRecord}
    (h : store.load scalars.recordCodec = .ok records) {record : TrustRecord}
    (hrecord : records.get? nodeId = some record) : record.HasJsonMetadata := by
  obtain ⟨v, hvalid⟩ := TrustStore.exists_of_load h hrecord
  exact TrustRecord.hasJsonMetadata_of_modelValidate hvalid

/-- A record with JSON metadata is in the file as it was saved. -/
theorem same_of_save (hscalars : scalars.Lawful) {store : TrustStore} {records : Dict TrustRecord}
    (hsave : (store.save scalars.recordCodec fault records).1 = .ok ()) :
    ∃ saved, (store.save scalars.recordCodec fault records).2.load scalars.recordCodec = .ok saved
      ∧ ∀ nodeId, (∀ record, records.get? nodeId = some record → record.HasJsonMetadata) →
          Option.Rel TrustRecord.Same (records.get? nodeId) (saved.get? nodeId) := by
  obtain ⟨saved, hload, hrel⟩ := TrustStore.load_save (ScalarCodec.restores hscalars) hsave
  refine ⟨saved, hload, fun nodeId hjson => ?_⟩
  have hfound := hrel nodeId
  generalize records.get? nodeId = found at hfound hjson ⊢
  generalize saved.get? nodeId = reloaded at hfound ⊢
  cases hfound with
  | none => exact .none
  | some hsame => exact .some (hsame.2 (hjson _ rfl))

theorem keeps_putRecord (hscalars : scalars.Lawful) {other : String} {record : TrustRecord}
    (hjson : ∀ record, persisted.get? nodeId = some record → record.HasJsonMetadata)
    (hinit : t.initialized = true) (hne : nodeId ≠ other)
    (h : Keeps scalars.recordCodec persisted nodeId t) :
    Keeps scalars.recordCodec persisted nodeId
      (t.putRecord scalars.recordCodec fault other record).2 := by
  obtain ⟨⟨t', ht', hrecord⟩, hfile⟩ := h
  rw [ensureInitialized_of_initialized hinit, Except.ok.injEq] at ht'
  subst ht'
  have hmemory : (t.records.set other record).get? nodeId = persisted.get? nodeId := by
    rw [Dict.get?_set, if_neg hne, hrecord]
  refine ⟨⟨_, ensureInitialized_of_initialized (putRecord_initialized.trans hinit), hmemory⟩, ?_⟩
  change ∃ saved, (t.store.save scalars.recordCodec fault (t.records.set other record)).2.load
    scalars.recordCodec = .ok saved ∧ _
  cases hsave : (t.store.save scalars.recordCodec fault (t.records.set other record)).1 with
  | error exc => rwa [TrustStore.save_of_error hsave]
  | ok =>
      obtain ⟨saved, hload, hsame⟩ := same_of_save hscalars hsave
      exact ⟨saved, hload, hmemory ▸ hsame nodeId (hmemory ▸ hjson)⟩

theorem keeps_perform (hscalars : scalars.Lawful)
    (hjson : ∀ record, persisted.get? nodeId = some record → record.HasJsonMetadata)
    (h : Keeps scalars.recordCodec persisted nodeId t) (hloaded : WritesLoaded t op)
    (hunnamed : op.written ≠ some nodeId) :
    Keeps scalars.recordCodec persisted nodeId (t.perform scalars.recordCodec op) := by
  cases hwritten : op.written with
  | none =>
      obtain ⟨t', ht', hrecord⟩ := h.read
      rw [perform, (call_of_read hwritten ht').2]
      refine ⟨⟨t', ?_, hrecord⟩, ensureInitialized_store ht' ▸ h.file⟩
      exact ensureInitialized_of_initialized (initialized_of_ensureInitialized ht')
  | some other =>
      obtain ⟨fault, record, hcall⟩ := call_of_write scalars.recordCodec t hwritten
      rw [perform, hcall]
      refine keeps_putRecord hscalars hjson (hloaded (by simp [hwritten])) ?_ h
      rintro rfl
      exact hunnamed hwritten

theorem keeps_fresh {store : TrustStore} (hload : store.load codec = .ok persisted)
    (nodeId : String) : Keeps codec persisted nodeId (fresh store) := by
  refine ⟨⟨⟨store, persisted, true⟩, ?_, rfl⟩, persisted, hload, ?_⟩
  · simp only [ensureInitialized, fresh, hload]
    rfl
  · cases persisted.get? nodeId with
    | none => exact .none
    | some record => exact .some (.refl record)

/-- A service that has not loaded its file answers from the file alone. -/
theorem getRecord_unloaded (h : t.initialized = false) (now : DateTime) (nodeId : String) :
    (t.getRecord codec now nodeId).1 = ((fresh t.store).getRecord codec now nodeId).1 := by
  simp only [TrustService.getRecord, ensureInitialized, h, fresh]
  cases t.store.load codec <;> rfl

theorem Keeps.getRecord (h : Keeps codec persisted nodeId t) (now : DateTime) :
    (t.getRecord codec now nodeId).1
      = .ok (persisted.getD nodeId (TrustRecord.new nodeId .unknown now)) := by
  obtain ⟨t', ht', hrecord⟩ := h.read
  simp only [TrustService.getRecord, ht', Dict.getD, hrecord]

theorem Keeps.listRecords (h : Keeps codec persisted nodeId t) (statusFilter : Option TrustStatus) :
    ∃ records : Dict TrustRecord, (t.listRecords codec statusFilter).1
        = .ok ((records.entries.map Prod.snd).filter fun r => statusFilter.all (r.status = ·))
      ∧ records.get? nodeId = persisted.get? nodeId := by
  obtain ⟨t', ht', hrecord⟩ := h.read
  refine ⟨t'.records, ?_, hrecord⟩
  cases statusFilter <;> simp [TrustService.listRecords, ht']

/-- A leading `initialize` puts the service where its first read would have put it. -/
theorem ensureInitialized_run {start : TrustService} {ops : List Op}
    (h : start.ensureInitialized codec = .ok t')
    (hloaded : Along (perform codec) WritesLoaded start ops) :
    (run (perform codec) start ops).ensureInitialized codec = .ok (run (perform codec) t' ops) := by
  induction ops generalizing start t' with
  | nil => exact h
  | cons op ops ih =>
      rw [run_cons, run_cons]
      refine ih ?_ hloaded.2
      cases hwritten : op.written with
      | none =>
          have hinit := initialized_of_ensureInitialized h
          have hself : t'.ensureInitialized codec = .ok t' := ensureInitialized_of_initialized hinit
          rw [perform, perform, (call_of_read hwritten h).2, (call_of_read hwritten hself).2, hself]
      | some other =>
          have hinit := hloaded.1 (by simp [hwritten])
          rw [ensureInitialized_of_initialized hinit, Except.ok.injEq] at h
          subst h
          obtain ⟨fault, record, hcall⟩ := call_of_write codec start hwritten
          rw [perform, hcall]
          exact ensureInitialized_of_initialized (putRecord_initialized.trans hinit)

/-- **No record is lost.** If the service has loaded its file whenever trust is granted or revoked,
every node that no grant and no revocation named keeps its persisted record, in every read and in
the file, and no read depends on a leading `initialize`. -/
theorem unnamed_records_kept (hscalars : scalars.Lawful) {store : TrustStore}
    (hload : store.load scalars.recordCodec = .ok persisted) {ops : List Op}
    (hloaded : Along (perform scalars.recordCodec) WritesLoaded (fresh store) ops) :
    let t := run (perform scalars.recordCodec) (fresh store) ops
    (∀ nodeId, (∀ op ∈ ops, op.written ≠ some nodeId) →
      (∀ now, (t.getRecord scalars.recordCodec now nodeId).1
          = .ok (persisted.getD nodeId (TrustRecord.new nodeId .unknown now)))
        ∧ (∀ statusFilter, ∃ records : Dict TrustRecord,
            (t.listRecords scalars.recordCodec statusFilter).1
                = .ok ((records.entries.map Prod.snd).filter fun r =>
                  statusFilter.all (r.status = ·))
              ∧ records.get? nodeId = persisted.get? nodeId)
        ∧ ∃ saved, t.store.load scalars.recordCodec = .ok saved
            ∧ Option.Rel TrustRecord.Same (persisted.get? nodeId) (saved.get? nodeId))
      ∧ ∀ op, op.written = none → (t.call scalars.recordCodec op).1
          = ((run (perform scalars.recordCodec) (fresh store) (.initializeRecords :: ops)).call
              scalars.recordCodec op).1 := by
  intro t
  constructor
  · intro nodeId hunnamed
    have hkeeps : Keeps scalars.recordCodec persisted nodeId t := by
      have hjson : ∀ record, persisted.get? nodeId = some record → record.HasJsonMetadata :=
        fun record hrecord => hasJsonMetadata_of_load hload hrecord
      refine (hloaded.and (along_of_forall_mem hunnamed)).invariant ?_ (keeps_fresh hload nodeId)
      exact fun t op h hstep => keeps_perform hscalars hjson h hstep.1 hstep.2
    exact ⟨hkeeps.getRecord, hkeeps.listRecords, hkeeps.file⟩
  · intro op hread
    obtain ⟨t', ht', -⟩ := (keeps_fresh hload "").read
    have hend := ensureInitialized_run ht' hloaded
    have hstart : (fresh store).perform scalars.recordCodec .initializeRecords = t' :=
      (call_of_read rfl ht').2
    rw [run_cons, hstart]
    exact congrArg Prod.fst (call_of_read hread hend).1

/-- A file that holds one record: `n` is revoked. -/
noncomputable def revokedStore : TrustStore :=
  ((fresh ⟨"trust_store.json", .absent⟩).revokeTrust ScalarCodec.iso.recordCodec .epoch none "n"
    none).2.store

theorem load_revokedStore : ∃ persisted record,
    revokedStore.load ScalarCodec.iso.recordCodec = .ok persisted
      ∧ persisted.get? "n" = some record ∧ record.status = .revoked := by
  have hsave : ((fresh ⟨"trust_store.json", .absent⟩).revokeTrust ScalarCodec.iso.recordCodec .epoch
      none "n" none).1 = .ok (revokedRecord none .epoch "n" none) := rfl
  obtain ⟨persisted, hload, hrel⟩ :=
    TrustStore.load_save (ScalarCodec.restores ScalarCodec.iso_lawful) (save_of_putRecord hsave)
  have hfound := hrel "n"
  rw [Dict.get?_set, if_pos rfl] at hfound
  generalize hrecord : persisted.get? "n" = found at hfound
  cases hfound with
  | some hsame => exact ⟨persisted, _, hload, hrecord, hsame.1.status⟩

def grantOther : Op := .grantTrust .epoch none "m" none {}

/-- A grant to `m` before the first read loses the revocation of `n`. -/
theorem unnamed_record_lost : ∃ persisted record,
    revokedStore.load ScalarCodec.iso.recordCodec = .ok persisted
      ∧ persisted.get? "n" = some record ∧ record.status = .revoked
      ∧ ((run (perform ScalarCodec.iso.recordCodec) (fresh revokedStore) [grantOther]).getRecord
          ScalarCodec.iso.recordCodec .epoch "n").1 = .ok (TrustRecord.new "n" .unknown .epoch)
      ∧ ∃ saved, (run (perform ScalarCodec.iso.recordCodec) (fresh revokedStore)
          [grantOther]).store.load ScalarCodec.iso.recordCodec = .ok saved
            ∧ saved.get? "n" = none := by
  obtain ⟨persisted, record, hload, hrecord, hstatus⟩ := load_revokedStore
  have hput : ((fresh revokedStore).putRecord ScalarCodec.iso.recordCodec none "m"
      (grantedRecord none .epoch "m" none {})).1 = .ok (grantedRecord none .epoch "m" none {}) :=
        rfl
  obtain ⟨saved, hsaved, hrel⟩ := TrustStore.load_save
    (ScalarCodec.restores ScalarCodec.iso_lawful) (save_of_putRecord hput)
  have hmissing : saved.get? "n" = none := by
    have hfound := hrel "n"
    rw [Dict.get?_set, if_neg (by decide), fresh, Dict.get?_empty] at hfound
    generalize saved.get? "n" = found at hfound ⊢
    cases hfound
    rfl
  refine ⟨persisted, record, hload, hrecord, hstatus, ?_, saved, ?_, hmissing⟩
  · rw [run_cons, run_nil]
    have hread := (keeps_fresh hsaved "n").getRecord .epoch
    rw [Dict.getD, hmissing, Option.getD_none] at hread
    exact (getRecord_unloaded rfl .epoch "n").trans hread
  · rw [run_cons, run_nil]
    exact hsaved

theorem unnamed_records_kept_initialized : ∃ record,
    ((run (perform ScalarCodec.iso.recordCodec) (fresh revokedStore)
        [.initializeRecords, grantOther]).getRecord ScalarCodec.iso.recordCodec .epoch "n").1
        = .ok record
      ∧ record.status = .revoked := by
  obtain ⟨persisted, record, hload, hrecord, hstatus⟩ := load_revokedStore
  have hloaded : Along (perform ScalarCodec.iso.recordCodec) WritesLoaded (fresh revokedStore)
      [.initializeRecords, grantOther] := by
    obtain ⟨t', ht', -⟩ := (keeps_fresh hload "n").read
    refine ⟨fun h => absurd rfl h, fun _ => ?_, trivial⟩
    rw [perform, (call_of_read rfl ht').2]
    exact initialized_of_ensureInitialized ht'
  have hkept := ((unnamed_records_kept ScalarCodec.iso_lawful hload hloaded).1 "n" (by
    simp [grantOther, Op.written])).1 .epoch
  refine ⟨record, hkept.trans ?_, hstatus⟩
  rw [Dict.getD, hrecord, Option.getD_some]

/-! ### Restart -/

def Op.HasJsonArgs : Op → Prop
  | .grantTrust _ _ _ _ args =>
      ∀ metadata ∈ args.metadata, ∀ k v, metadata.get? k = some v → ∃ j, v = .ofJson j
  | _ => True

/-- Every record in memory has JSON metadata, and the file holds the same records. -/
structure Saved (codec : RecordCodec) (t : TrustService) : Prop where
  initialized : t.initialized = true
  json : ∀ nodeId record, t.records.get? nodeId = some record → record.HasJsonMetadata
  file : ∃ saved, t.store.load codec = .ok saved
    ∧ ∀ nodeId, Option.Rel TrustRecord.Same (t.records.get? nodeId) (saved.get? nodeId)

theorem hasJsonMetadata_new (nodeId : String) (status : TrustStatus) (now : DateTime) :
    (TrustRecord.new nodeId status now).HasJsonMetadata := by
  intro k v hv
  simp [TrustRecord.new] at hv

theorem hasJson_revokeMetadata {metadata : Dict PyValue} {reason : Option String}
    (h : ∀ k v, metadata.get? k = some v → ∃ j, v = .ofJson j) :
    ∀ k v, (revokeMetadata metadata reason).get? k = some v → ∃ j, v = .ofJson j := by
  intro k v hv
  unfold revokeMetadata at hv
  split at hv
  · rename_i text _
    rw [Dict.get?_set] at hv
    split_ifs at hv with hk
    · exact ⟨.str text, (Option.some.inj hv).symm⟩
    · exact h k v hv
  · exact h k v hv

theorem call_of_write_json (codec : RecordCodec) (hwritten : op.written = some nodeId)
    (hargs : op.HasJsonArgs)
    (hjson : ∀ record, t.records.get? nodeId = some record → record.HasJsonMetadata) :
    ∃ fault record, t.call codec op = (t.putRecord codec fault nodeId record).map .record id
      ∧ record.HasJsonMetadata := by
  cases op with
  | grantTrust now fault other publicKey args =>
      cases hwritten
      refine ⟨fault, _, rfl, ?_⟩
      generalize t.records.get? nodeId = existing at hjson ⊢
      cases existing with
      | none =>
          change ∀ k v, (args.metadata.getD ∅).get? k = some v → _
          cases hmetadata : args.metadata with
          | none => exact hasJsonMetadata_new nodeId .trusted now
          | some metadata => exact hargs metadata hmetadata
      | some record =>
          change ∀ k v, (args.metadata.getD record.metadata).get? k = some v → _
          cases hmetadata : args.metadata with
          | none => exact hjson record rfl
          | some metadata => exact hargs metadata hmetadata
  | revokeTrust now fault other reason =>
      cases hwritten
      refine ⟨fault, _, rfl, ?_⟩
      generalize t.records.get? nodeId = existing at hjson ⊢
      cases existing with
      | none => exact hasJson_revokeMetadata (hasJsonMetadata_new nodeId .revoked now)
      | some record => exact hasJson_revokeMetadata (hjson record rfl)
  | _ => cases hwritten

theorem saved_putRecord (hscalars : scalars.Lawful) {record written : TrustRecord}
    (hrecord : record.HasJsonMetadata) (h : Saved scalars.recordCodec t)
    (hput : (t.putRecord scalars.recordCodec fault nodeId record).1 = .ok written) :
    Saved scalars.recordCodec (t.putRecord scalars.recordCodec fault nodeId record).2 := by
  have hjson : ∀ other record', (t.records.set nodeId record).get? other = some record' →
      record'.HasJsonMetadata := by
    intro other record' hother
    rw [Dict.get?_set] at hother
    split_ifs at hother
    · exact Option.some.inj hother ▸ hrecord
    · exact h.json other record' hother
  obtain ⟨saved, hload, hsame⟩ := same_of_save hscalars (save_of_putRecord hput)
  exact ⟨putRecord_initialized.trans h.initialized, hjson, saved, hload,
    fun other => hsame other (hjson other)⟩

theorem saved_perform (hscalars : scalars.Lawful) (h : Saved scalars.recordCodec t)
    (hargs : op.HasJsonArgs) (hsuccess : (t.call scalars.recordCodec op).1.Succeeds) :
    Saved scalars.recordCodec (t.perform scalars.recordCodec op) := by
  cases hwritten : op.written with
  | none =>
      have hself : t.ensureInitialized scalars.recordCodec = .ok t :=
        ensureInitialized_of_initialized h.initialized
      rw [perform, (call_of_read hwritten hself).2]
      exact h
  | some nodeId =>
      obtain ⟨fault, record, hcall, hrecord⟩ :=
        call_of_write_json scalars.recordCodec hwritten hargs (h.json nodeId)
      rw [hcall] at hsuccess
      obtain ⟨written, hput⟩ := hsuccess
      rw [perform, hcall]
      exact saved_putRecord hscalars hrecord h hput

theorem saved_of_ensureInitialized {store : TrustStore}
    (h : (fresh store).ensureInitialized scalars.recordCodec = .ok t) :
    Saved scalars.recordCodec t := by
  have hload : store.load scalars.recordCodec = .ok t.records := by
    simp only [ensureInitialized, fresh] at h
    cases hload : store.load scalars.recordCodec with
    | error exc =>
        rw [hload] at h
        cases h
    | ok records =>
        rw [hload] at h
        cases h
        rfl
  refine ⟨initialized_of_ensureInitialized h,
    fun nodeId record hrecord => hasJsonMetadata_of_load hload hrecord, t.records,
    ?_, fun nodeId => ?_⟩
  · rw [ensureInitialized_store h]
    exact hload
  · cases t.records.get? nodeId with
    | none => exact .none
    | some record => exact .some (.refl record)

/-- **Trust survives a restart.** After operations that all succeed, a fresh service over the same
file returns for every node the record that the old one returns; and reading back a saved map of
records gives the same map. -/
theorem records_survive_restart (hscalars : scalars.Lawful) :
    (∀ (store : TrustStore) (t : TrustService) (ops : List Op),
        (fresh store).ensureInitialized scalars.recordCodec = .ok t →
        (∀ op ∈ ops, op.HasJsonArgs) →
        Along (perform scalars.recordCodec)
          (fun t op => (t.call scalars.recordCodec op).1.Succeeds) t ops →
        ∀ now nodeId, ∃ record record',
          ((run (perform scalars.recordCodec) t ops).getRecord scalars.recordCodec now nodeId).1
              = .ok record
            ∧ ((fresh (run (perform scalars.recordCodec) t ops).store).getRecord scalars.recordCodec
                now nodeId).1 = .ok record'
            ∧ record.Same record')
      ∧ ∀ (store : TrustStore) (fault : Option SaveFault) (records : Dict TrustRecord),
        (∀ nodeId record, records.get? nodeId = some record → record.HasJsonMetadata) →
        (store.save scalars.recordCodec fault records).1 = .ok () →
        ∃ saved, (store.save scalars.recordCodec fault records).2.load scalars.recordCodec
          = .ok saved
          ∧ ∀ nodeId, Option.Rel TrustRecord.Same (records.get? nodeId) (saved.get? nodeId) := by
  constructor
  · intro store t ops hinit hargs hsuccess now nodeId
    have hend : Saved scalars.recordCodec (run (perform scalars.recordCodec) t ops) :=
      (hsuccess.and (along_of_forall_mem hargs)).invariant
        (fun _ _ h hstep => saved_perform hscalars h hstep.2 hstep.1)
        (saved_of_ensureInitialized hinit)
    obtain ⟨saved, hload, hsame⟩ := hend.file
    have hfresh := (keeps_fresh hload nodeId).getRecord now
    rw [getRecord_of_initialized hend.initialized, hfresh]
    refine ⟨_, _, rfl, rfl, ?_⟩
    have hfound := hsame nodeId
    rw [Dict.getD, Dict.getD]
    generalize (run (perform scalars.recordCodec) t ops).records.get? nodeId = found at hfound ⊢
    generalize saved.get? nodeId = reloaded at hfound ⊢
    cases hfound with
    | none => exact .refl _
    | some hrecord => exact hrecord
  · intro store fault records hjson hsave
    obtain ⟨saved, hload, hsame⟩ := same_of_save hscalars hsave
    exact ⟨saved, hload, fun nodeId => hsame nodeId (hjson nodeId)⟩

def grantThenRevoke : List Op := [
  .grantTrust .epoch none "n" (some "key") { metadata := some (Dict.set ∅ "room" (.int 4)) },
  .revokeTrust .epoch none "n" (some "lost")]

theorem records_survive_restart_revoked : ∃ record record',
    ((run (perform ScalarCodec.iso.recordCodec) ⟨⟨"trust_store.json", .absent⟩, ∅, true⟩
        grantThenRevoke).getRecord ScalarCodec.iso.recordCodec .epoch "n").1 = .ok record
      ∧ ((fresh (run (perform ScalarCodec.iso.recordCodec) ⟨⟨"trust_store.json", .absent⟩, ∅, true⟩
        grantThenRevoke).store).getRecord ScalarCodec.iso.recordCodec .epoch "n").1 = .ok record'
      ∧ record.Same record' := by
  refine (records_survive_restart ScalarCodec.iso_lawful).1 ⟨"trust_store.json", .absent⟩ _ _ rfl ?_
    ?_ .epoch "n"
  · rw [grantThenRevoke, List.forall_mem_cons, List.forall_mem_singleton]
    refine ⟨?_, trivial⟩
    intro metadata hmetadata k v hv
    cases hmetadata
    rw [Dict.get?_set] at hv
    split_ifs at hv
    · exact ⟨.int 4, (Option.some.inj hv).symm⟩
    · simp at hv
  · exact ⟨⟨_, rfl⟩, ⟨_, rfl⟩, trivial⟩

end TrustService

end Shyam
