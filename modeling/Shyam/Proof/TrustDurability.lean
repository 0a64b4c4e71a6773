import Shyam.Proof.TrustHistory
import Shyam.Trust.StoreBytes

/-!
# Durability of the trust store

What `save` writes is read back as what was dumped, so the store on bytes does what the store on
values does. And whatever saves stop where they like, the records that load are those of the last
one that came to the end.
-/

namespace Shyam

open Python AtomicFile Transition

namespace TrustFiles

variable {lib : TextLibrary} {codec : RecordCodec} {files : TrustFiles} {records : Dict TrustRecord}
  {R : TrustRecord → TrustRecord → Prop}

/-- What is dumped of the records can be read back. -/
def Dumps (lib : TextLibrary) (codec : RecordCodec) (records : Dict TrustRecord) : Prop :=
  ∀ nodeId record dumped, records.get? nodeId = some record → codec.modelDump record = .ok dumped →
    dumped.Readable lib.floatRepr

/-! ### The two stores -/

/-- **Loading.** The store on bytes loads what the store on values loads. -/
theorem load_eq {file : StoreFile} (h : fileOf lib files.disk.file = some file) :
    files.load lib codec = (⟨files.path, file⟩ : TrustStore).load codec := by
  unfold fileOf at h
  unfold load
  cases hcontent : files.disk.file with
  | none =>
      rw [hcontent] at h
      cases h
      rfl
  | some data =>
      rw [hcontent] at h
      dsimp only at h ⊢
      cases htext : readText data with
      | none =>
          rw [htext] at h
          cases h
      | some text =>
          rw [htext, Option.map_some, Option.some.injEq] at h
          dsimp only
          by_cases hblank : strip text = ""
          · rw [if_pos hblank] at h ⊢
            rw [← h]
            rfl
          · rw [if_neg hblank] at h ⊢
            rw [h]

theorem readable_payload (hdumps : Dumps lib codec records) {payload : List (String × JsonValue)}
    (h : TrustStore.dumpRecords codec records = .ok payload) :
    (JsonValue.obj payload).Readable lib.floatRepr := by
  have hfields := TrustStore.forall₂_dumpRecords h
  refine .obj (Dict.map_fst_of_forall₂ (hfields.imp fun _ _ h => h.1) ▸ records.nodup) ?_
  have hentries : ∀ entry ∈ records.entries, ∀ dumped, codec.modelDump entry.2 = .ok dumped →
      dumped.Readable lib.floatRepr :=
    fun entry hentry dumped => hdumps entry.1 entry.2 dumped (Dict.get?_eq_some_iff.mpr hentry)
  clear h hdumps
  generalize records.entries = entries at hfields hentries
  induction hfields with
  | nil => exact nofun
  | cons hfield _ ih =>
      rw [List.forall_mem_cons] at hentries
      exact List.forall_mem_cons.mpr ⟨hentries.1 _ hfield.2, ih hentries.2⟩

/-- **Saving.** The bytes that are written are taken for the sorted payload. -/
theorem fileOf_content {payload : List (String × JsonValue)}
    (h : (JsonValue.obj payload).Readable lib.floatRepr) :
    fileOf lib (some (content payload)) = some (.json (JsonValue.canon (.obj payload))) := by
  have hlines : ∀ c ∈ ((JsonValue.canon (.obj payload)).dumps (.indented 2)).toList, c ≠ '\r' := by
    intro c hc
    rw [JsonValue.dumps, String.toList_ofList] at hc
    exact JsonFormat.ne_return_of_mem_print h.canon hc
  have hbrace : '{' ∈ ((JsonValue.canon (.obj payload)).dumps (.indented 2)).toList := by
    rw [JsonValue.dumps, String.toList_ofList, JsonValue.canon, JsonFormat.print]
    exact JsonFormat.opening_mem_enclose _ _ _ _ _
  rw [fileOf, content]
  rw [readText_writeText_of_notMem hlines, Option.map_some, if_neg (strip_ne_empty hbrace rfl),
    loads_dumps (.indented 2) h.canon]

theorem contents_eq_some {data : Bytes} (h : contents codec records = some data) :
    ∃ payload, TrustStore.dumpRecords codec records = .ok payload ∧ data = content payload := by
  rw [contents] at h
  split at h
  · next payload hpayload =>
      cases h
      exact ⟨payload, hpayload, rfl⟩
  · cases h

/-- **Refinement.** A save on bytes that is not stopped returns what the save on values returns, and
leaves bytes that are taken for the file that it leaves. -/
theorem save_refines (lib : TextLibrary) (codec : RecordCodec)
    (files : TrustFiles) {file : StoreFile} (hfile : fileOf lib files.disk.file = some file)
    {records : Dict TrustRecord} (hdumps : Dumps lib codec records)
    {ending : SaveEnding} (hending : ending.isStop = false) :
    (files.save codec ending records).1
        = some ((⟨files.path, file⟩ : TrustStore).save codec ending.fault records).1
      ∧ fileOf lib (files.save codec ending records).2.disk.file
        = some ((⟨files.path, file⟩ : TrustStore).save codec ending.fault records).2.file := by
  have hdisk (h : ending.progress.isReplaced = false) :
      fileOf lib (files.disk.session (fun _ => contents codec records) ending.progress).file
        = some file := by
    rw [Disk.file_session, h, if_neg Bool.false_ne_true, hfile]
  have hnone (h : contents codec records = none) :
      fileOf lib (files.disk.session (fun _ => contents codec records) ending.progress).file
        = some file := by
    rw [Disk.file_session, h, Option.none_or, ite_self, hfile]
  cases ending with
  | stops progress => cases hending
  | raises fault part =>
      have hkept : (SaveEnding.raises fault part).progress.isReplaced = false := by
        rcases fault with _ | _ | _ <;> cases part <;> rfl
      rcases fault with text | text | text
      · exact ⟨rfl, hdisk hkept⟩
      all_goals
        refine ⟨?_, ?_⟩
        · simp only [save, SaveEnding.fault, SaveEnding.isStop, TrustStore.save]
          cases TrustStore.dumpRecords codec records <;> rfl
        · rw [save, hdisk hkept]
          simp only [SaveEnding.fault, TrustStore.save]
          cases TrustStore.dumpRecords codec records <;> rfl
  | returns =>
      cases hpayload : TrustStore.dumpRecords codec records with
      | error exc =>
          have hcontents : contents codec records = none := by
            rw [contents, hpayload]
          refine ⟨?_, ?_⟩
          · simp only [save, SaveEnding.fault, SaveEnding.isStop, TrustStore.save, hpayload]
            rfl
          · rw [save, hnone hcontents]
            simp only [SaveEnding.fault, TrustStore.save, hpayload]
      | ok payload =>
          have hcontents : contents codec records = some (content payload) := by
            rw [contents, hpayload]
          refine ⟨?_, ?_⟩
          · simp only [save, SaveEnding.fault, SaveEnding.isStop, TrustStore.save, hpayload]
            rfl
          · have hreplaced :
              (files.disk.session (fun _ => contents codec records)
                SaveEnding.returns.progress).file = some (content payload) := by
              rw [Disk.file_session, hcontents]
              rfl
            rw [save, hreplaced, fileOf_content (readable_payload hdumps hpayload)]
            simp only [SaveEnding.fault, TrustStore.save, hpayload]

/-! ### Saves that stop -/

/-- One call of `save`. -/
def attempt (codec : RecordCodec) (files : TrustFiles)
    (saving : Dict TrustRecord × SaveEnding) : TrustFiles :=
  (files.save codec saving.2 saving.1).2

/-- The last save that came to the end. -/
def lastSaved (codec : RecordCodec) (savings : List (Dict TrustRecord × SaveEnding)) :
    Option (Dict TrustRecord × SaveEnding) :=
  Disk.lastReplaced (fun saving => contents codec saving.1)
    (fun saving => saving.2.progress) savings

theorem run_attempt (codec : RecordCodec) (files : TrustFiles)
    (savings : List (Dict TrustRecord × SaveEnding)) :
    run (attempt codec) files savings
      = { files with
          disk :=
            run (fun disk saving =>
              disk.session (fun _ => contents codec saving.1) saving.2.progress) files.disk
            savings } := by
  induction savings generalizing files with
  | nil => rfl
  | cons saving savings ih =>
      rw [run_cons, ih]
      rfl

/-- What loads after the savings. -/
structure Durable (lib : TextLibrary) (codec : RecordCodec) (R : TrustRecord → TrustRecord → Prop)
    (files : TrustFiles) (savings : List (Dict TrustRecord × SaveEnding)) : Prop where
  kept : lastSaved codec savings = none →
    (run (attempt codec) files savings).load lib codec = files.load lib codec
  saved : ∀ saving, lastSaved codec savings = some saving →
    ∃ records, (run (attempt codec) files savings).load lib codec = .ok records
      ∧ ∀ nodeId, Option.Rel R (saving.1.get? nodeId) (records.get? nodeId)

/-- **Durability.** Whatever saves raise or stop, what loads are the records of the last save that
came to the end, and what loaded before where there is none. -/
theorem saves_durable (lib : TextLibrary) (codec : RecordCodec) (hrestores : codec.Restores R)
    (files : TrustFiles) (savings : List (Dict TrustRecord × SaveEnding))
    (hdumps : ∀ saving ∈ savings, Dumps lib codec saving.1) :
    Durable lib codec R files savings := by
  have hfile : (run (attempt codec) files savings).disk.file
      = ((lastSaved codec savings).bind fun saving => contents codec saving.1).or
        files.disk.file := by
    rw [run_attempt]
    exact Disk.file_run (fun saving => contents codec saving.1)
      (fun saving => saving.2.progress) savings files.disk
  have hpath : (run (attempt codec) files savings).path = files.path := by
    rw [run_attempt]
  constructor
  · intro hnone
    rw [hnone, Option.bind_none, Option.none_or] at hfile
    rw [load, load, hfile, hpath]
  · intro saving hsaving
    have hmem : saving ∈ savings.filter fun saving =>
        (contents codec saving.1).isSome && saving.2.progress.isReplaced :=
          List.mem_of_getLast? hsaving
    rw [List.mem_filter, Bool.and_eq_true] at hmem
    obtain ⟨data, hdata⟩ := Option.isSome_iff_exists.mp hmem.2.1
    obtain ⟨payload, hpayload, rfl⟩ := contents_eq_some hdata
    have hstored : fileOf lib (run (attempt codec) files savings).disk.file
        = some (.json (JsonValue.canon (.obj payload))) := by
      rw [hfile, hsaving, Option.bind_some, hdata, Option.some_or,
        fileOf_content (readable_payload (hdumps saving hmem.1) hpayload)]
    have hsave : ((⟨files.path, .absent⟩ : TrustStore).save codec none saving.1).1 = .ok () := by
      simp only [TrustStore.save, hpayload]
    obtain ⟨records, hload, hrel⟩ := TrustStore.load_save hrestores hsave
    refine ⟨records, ?_, hrel⟩
    rw [load_eq hstored, hpath]
    simpa only [TrustStore.save, hpayload] using hload

/-! ### A record without metadata -/

/-- Only the metadata of a record can be unreadable. -/
theorem dumps_of_metadata {scalars : ScalarCodec}
    (h : ∀ nodeId record, records.get? nodeId = some record → ∀ k v dumped,
      record.metadata.get? k = some v →
      scalars.dumpAny v = .ok dumped → dumped.Readable lib.floatRepr) :
    Dumps lib scalars.recordCodec records := by
  intro nodeId record dumped hrecord hdump
  obtain ⟨metadata, rfl, hmetadata⟩ := TrustRecord.modelDump_eq_ok hdump
  have hkey : (TrustRecord.optionalStr record.publicKey).Readable lib.floatRepr := by
    cases record.publicKey with
    | none => exact .null
    | some key => exact .str key
  have hfields : (JsonValue.obj metadata).Readable lib.floatRepr := by
    refine .obj (Dict.map_fst_of_forall₂ (hmetadata.imp fun _ _ h => h.1)
      ▸ record.metadata.nodup) ?_
    have hentries : ∀ entry ∈ record.metadata.entries, ∀ dumped,
      scalars.dumpAny entry.2 = .ok dumped →
        dumped.Readable lib.floatRepr :=
      fun entry hentry dumped =>
        h nodeId record hrecord entry.1 entry.2 dumped (Dict.get?_eq_some_iff.mpr hentry)
    clear hdump hkey h hrecord
    generalize record.metadata.entries = entries at hmetadata hentries
    induction hmetadata with
    | nil => exact nofun
    | cons hfield _ ih =>
        rw [List.forall_mem_cons] at hentries
        exact List.forall_mem_cons.mpr ⟨hentries.1 _ hfield.2, ih hentries.2⟩
  refine .obj (by simp [TrustRecord.dumpedFields]) fun f hf => ?_
  simp only [TrustRecord.dumpedFields, List.mem_cons, List.not_mem_nil, or_false] at hf
  rcases hf with rfl | rfl | rfl | rfl | rfl | rfl | rfl | rfl
  · exact .str _
  · exact hkey
  · exact .str _
  · exact .str _
  · exact .str _
  · exact .str _
  · exact .str _
  · exact hfields

def posixLibrary : TextLibrary := ⟨id, fun _ => "Expecting value", fun _ => "invalid start byte"⟩

def newFiles : TrustFiles := { path := "trust_store.json" }

def oneRecord (nodeId : String) : Dict TrustRecord :=
  (∅ : Dict TrustRecord).set nodeId (TrustRecord.new nodeId .trusted .epoch)

theorem dumps_oneRecord (nodeId : String) :
    Dumps posixLibrary ScalarCodec.iso.recordCodec (oneRecord nodeId) := by
  refine dumps_of_metadata fun other record hrecord k v dumped hv _ => ?_
  rw [oneRecord, Dict.get?_set] at hrecord
  split_ifs at hrecord
  · cases hrecord
    change (∅ : Dict PyValue).get? k = some v at hv
    rw [Dict.get?_empty] at hv
    cases hv
  · rw [Dict.get?_empty] at hrecord
    cases hrecord

theorem save_refines_new :
    (newFiles.save ScalarCodec.iso.recordCodec .returns (oneRecord "n")).1
        = some ((⟨"trust_store.json", .absent⟩ : TrustStore).save ScalarCodec.iso.recordCodec none
          (oneRecord "n")).1
      ∧ fileOf posixLibrary
        (newFiles.save ScalarCodec.iso.recordCodec .returns (oneRecord "n")).2.disk.file
        = some ((⟨"trust_store.json", .absent⟩ : TrustStore).save ScalarCodec.iso.recordCodec none
          (oneRecord "n")).2.file :=
  save_refines posixLibrary ScalarCodec.iso.recordCodec newFiles rfl (dumps_oneRecord "n") rfl

theorem saves_durable_torn :
    Durable posixLibrary ScalarCodec.iso.recordCodec
      (fun record record' => record.SameScalars record') newFiles
      [(oneRecord "n", .returns), (oneRecord "m", .stops (.torn []))] := by
  refine saves_durable posixLibrary ScalarCodec.iso.recordCodec
    ((ScalarCodec.restores ScalarCodec.iso_lawful).mono fun _ _ h => h.1) newFiles _ ?_
  exact List.forall_mem_cons.mpr ⟨dumps_oneRecord "n",
    List.forall_mem_singleton.mpr (dumps_oneRecord "m")⟩

end TrustFiles

namespace TrustService

/-! ### Services that crash -/

/-- A call that returns, or the process is gone in the middle of a call, before or after the file is
replaced. The runtime loads the file when it starts again. -/
inductive LifeAction where
  | perform (op : Op)
  | crash (op : Op) (replaced : Bool)

variable {codec : RecordCodec} {R : TrustRecord → TrustRecord → Prop} {t t' : TrustService}
  {nodeId : String}

def restart (codec : RecordCodec) (store : TrustStore) : TrustService :=
  ((fresh store).initializeRecords codec).2

def LifeAction.op : LifeAction → Op
  | perform op | crash op _ => op

def live (codec : RecordCodec) (t : TrustService) : LifeAction → TrustService
  | .perform op => t.perform codec op
  | .crash op replaced => restart codec (if replaced then (t.perform codec op).store else t.store)

/-- In memory and in the file, the record of the node is the given one, up to what a
reload makes of it. -/
structure Remembers (codec : RecordCodec) (R : TrustRecord → TrustRecord → Prop) (nodeId : String)
    (record : Option TrustRecord) (t : TrustService) : Prop where
  initialized : t.initialized = true
  memory : Option.Rel R record (t.records.get? nodeId)
  file : ∃ saved, t.store.load codec = .ok saved ∧ Option.Rel R record (saved.get? nodeId)

theorem rel_trans {a b c : Option TrustRecord} (htrans : ∀ {a b c}, R a b → R b c → R a c)
    (hab : Option.Rel R a b) (hbc : Option.Rel R b c) : Option.Rel R a c := by
  cases hab with
  | none => exact hbc
  | some hab =>
      cases hbc with
      | some hbc => exact .some (htrans hab hbc)

theorem rel_refl (hrefl : ∀ record, R record record) (record : Option TrustRecord) :
    Option.Rel R record record := by
  cases record with
  | none => exact .none
  | some record => exact .some (hrefl record)

/-- The file of a call: a read leaves it, and a write that raises leaves it too. -/
theorem Remembers.perform (hrestores : codec.Restores R) (htrans : ∀ {a b c}, R a b → R b c → R a c)
    {record : Option TrustRecord} (h : Remembers codec R nodeId record t) {op : Op}
    (hunnamed : op.written ≠ some nodeId) :
    Remembers codec R nodeId record (t.perform codec op) := by
  cases hwritten : op.written with
  | none =>
      have hself : t.ensureInitialized codec = .ok t :=
        ensureInitialized_of_initialized h.initialized
      rw [TrustService.perform, (call_of_read hwritten hself).2]
      exact h
  | some other =>
      obtain ⟨fault, written, hcall⟩ := call_of_write codec t hwritten
      have hne : nodeId ≠ other := by
        rintro rfl
        exact hunnamed hwritten
      have hmemory : (t.records.set other written).get? nodeId = t.records.get? nodeId := by
        rw [Dict.get?_set, if_neg hne]
      rw [TrustService.perform, hcall]
      refine ⟨h.initialized, ?_, ?_⟩
      · change Option.Rel R record ((t.records.set other written).get? nodeId)
        rw [hmemory]
        exact h.memory
      · change ∃ saved, (t.store.save codec fault (t.records.set other written)).2.load codec
          = .ok saved ∧ _
        cases hsave : (t.store.save codec fault (t.records.set other written)).1 with
        | error exc =>
            rw [TrustStore.save_of_error hsave]
            exact h.file
        | ok =>
            obtain ⟨saved, hload, hrel⟩ := TrustStore.load_save hrestores hsave
            have hsaved := hrel nodeId
            rw [hmemory] at hsaved
            exact ⟨saved, hload, rel_trans htrans h.memory hsaved⟩

theorem remembers_restart {store : TrustStore} {record : Option TrustRecord}
    {saved : Dict TrustRecord} (hload : store.load codec = .ok saved)
    (hrecord : Option.Rel R record (saved.get? nodeId)) :
    Remembers codec R nodeId record (restart codec store) := by
  have hrestart : restart codec store = ⟨store, saved, true⟩ := by
    simp only [restart, initializeRecords, ensureInitialized, fresh, hload]
    rfl
  rw [hrestart]
  exact ⟨rfl, hrecord, saved, hload, hrecord⟩

theorem Remembers.live (hrestores : codec.Restores R) (htrans : ∀ {a b c}, R a b → R b c → R a c)
    {record : Option TrustRecord} (h : Remembers codec R nodeId record t) {action : LifeAction}
    (hunnamed : action.op.written ≠ some nodeId) :
    Remembers codec R nodeId record (t.live codec action) := by
  cases action with
  | perform op => exact h.perform hrestores htrans hunnamed
  | crash op replaced =>
      have hstore : ∃ saved, (if replaced then (t.perform codec op).store else t.store).load codec
        = .ok saved
          ∧ Option.Rel R record (saved.get? nodeId) := by
        cases replaced with
        | false => exact h.file
        | true => exact (h.perform hrestores htrans hunnamed).file
      obtain ⟨saved, hload, hsaved⟩ := hstore
      exact remembers_restart hload hsaved

/-- What a grant or a revocation that returns has put in memory and in the file. -/
theorem remembers_of_returned (hrestores : codec.Restores R) (hrefl : ∀ record, R record record)
    (hinit : t.initialized = true) {op : Op} (hwritten : op.written = some nodeId)
    {record : TrustRecord} (hreturned : (t.call codec op).1 = .record (.ok record)) :
    Remembers codec R nodeId (some record) (t.perform codec op) := by
  obtain ⟨fault, written, hcall⟩ := call_of_write codec t hwritten
  rw [hcall] at hreturned
  have hput : (t.putRecord codec fault nodeId written).1 = .ok record := by
    simpa [Prod.map] using hreturned
  have hsave := save_of_putRecord hput
  have hrecord : written = record := by
    simp only [putRecord, hsave, Except.map, Except.ok.injEq] at hput
    exact hput
  have hmemory : (t.records.set nodeId written).get? nodeId = some record := by
    rw [Dict.get?_set, if_pos rfl, hrecord]
  obtain ⟨saved, hload, hrel⟩ := TrustStore.load_save hrestores hsave
  have hsaved := hrel nodeId
  rw [hmemory] at hsaved
  rw [perform, hcall]
  refine ⟨hinit, ?_, saved, hload, hsaved⟩
  change Option.Rel R (some record) ((t.records.set nodeId written).get? nodeId)
  rw [hmemory]
  exact rel_refl hrefl _

/-- **Crashes.** What a grant or a revocation returned is what every later process finds, up to what
a reload makes of it, until a call that names the node: whatever the calls in between raise, and
wherever they crash. -/
theorem returned_survives (codec : RecordCodec) (hrestores : codec.Restores R)
    (hrefl : ∀ record, R record record) (htrans : ∀ {a b c}, R a b → R b c → R a c)
    (t : TrustService) (hinit : t.initialized = true) {op : Op} {nodeId : String}
    (hwritten : op.written = some nodeId) {record : TrustRecord}
    (hreturned : (t.call codec op).1 = .record (.ok record)) (actions : List LifeAction)
    (hunnamed : ∀ action ∈ actions, action.op.written ≠ some nodeId) (now : DateTime) :
    ∃ record', ((run (live codec) (t.perform codec op) actions).getRecord codec now nodeId).1
      = .ok record'
      ∧ R record record' := by
  have hstart := remembers_of_returned hrestores hrefl hinit hwritten hreturned
  have hmem : Along (live codec) (fun _ action => action.op.written ≠ some nodeId)
    (t.perform codec op) actions :=
    along_of_forall_mem hunnamed
  have h : Remembers codec R nodeId (some record) (run (live codec) (t.perform codec op) actions) :=
    hmem.invariant (fun _ _ hs hne => hs.live hrestores htrans hne) hstart
  rw [getRecord_of_initialized h.initialized, Dict.getD]
  have hmemory := h.memory
  generalize (run (live codec) (t.perform codec op) actions).records.get? nodeId = found at hmemory
  cases hmemory with
  | some hrel => exact ⟨_, rfl, hrel⟩

theorem sameScalars_trans {a b c : TrustRecord} (hab : a.SameScalars b) (hbc : b.SameScalars c) :
    a.SameScalars c where
  nodeId := hbc.nodeId.trans hab.nodeId
  publicKey := hbc.publicKey.trans hab.publicKey
  status := hbc.status.trans hab.status
  relationship := hbc.relationship.trans hab.relationship
  «alias» := hbc.«alias».trans hab.«alias»
  createdAt := hbc.createdAt.trans hab.createdAt
  updatedAt := hbc.updatedAt.trans hab.updatedAt

/-- `n` is revoked, and the process is gone while it grants trust to `m`. -/
theorem returned_survives_revocation : ∃ record',
    ((run (live ScalarCodec.iso.recordCodec)
        (TrustService.perform ScalarCodec.iso.recordCodec ⟨⟨"trust_store.json", .absent⟩, ∅, true⟩
          (.revokeTrust .epoch none "n" none))
        [.crash grantOther true]).getRecord ScalarCodec.iso.recordCodec .epoch "n").1 = .ok record'
      ∧ (revokedRecord none .epoch "n" none).SameScalars record' := by
  refine returned_survives ScalarCodec.iso.recordCodec
    ((ScalarCodec.restores ScalarCodec.iso_lawful).mono fun _ _ h => h.1)
      (fun _ => ⟨rfl, rfl, rfl, rfl, rfl, rfl, rfl⟩)
    sameScalars_trans _ rfl rfl rfl _ ?_ .epoch
  exact List.forall_mem_singleton.mpr (by decide)

end TrustService

end Shyam
