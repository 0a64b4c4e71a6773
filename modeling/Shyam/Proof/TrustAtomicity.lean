import Mathlib.Data.Fintype.EquivFin
import Shyam.Trust.Service

/-!
# Trust changes that fail

A grant or a revocation puts its record in memory before it saves all of them. One that fails keeps
the record in memory, where a record that cannot be serialized fails every save to come.
-/

namespace Shyam

open Python

/-- Every metadata value has a JSON form. -/
def TrustRecord.Serialisable (scalars : ScalarCodec) (record : TrustRecord) : Prop :=
  ∀ k v, record.metadata.get? k = some v → ∃ j, scalars.dumpAny v = .ok j

namespace TrustService

inductive Change where
  | grant (publicKey : Option String) (args : GrantArgs)
  | revoke (reason : Option String)

/-- The record that the change makes of the one that is held. -/
def Change.record (existing : Option TrustRecord) (now : DateTime) (nodeId : String) :
    Change → TrustRecord
  | .grant publicKey args => grantedRecord existing now nodeId publicKey args
  | .revoke reason => revokedRecord existing now nodeId reason

def change (codec : RecordCodec) (now : DateTime) (fault : Option SaveFault)
    (t : TrustService) (nodeId : String) :
    Change → Except Exc TrustRecord × TrustService
  | .grant publicKey args => t.grantTrust codec now fault nodeId publicKey args
  | .revoke reason => t.revokeTrust codec now fault nodeId reason

/-- The metadata that is written: what the call gives, or what is held. -/
def Change.metadata (existing : Option TrustRecord) : Change → Dict PyValue
  | .grant _ args => args.metadata.getD ((existing.map TrustRecord.metadata).getD ∅)
  | .revoke reason => revokeMetadata ((existing.map TrustRecord.metadata).getD ∅) reason

/-- Every metadata value that is written has a JSON form. -/
def Change.WellFormed (scalars : ScalarCodec) (existing : Option TrustRecord) (c : Change) : Prop :=
  ∀ k v, (c.metadata existing).get? k = some v → ∃ j, scalars.dumpAny v = .ok j

/-- The call asks for what the record says already. -/
def Change.Repeats (now : DateTime) (record : TrustRecord) : Change → Prop
  | .grant publicKey args => record.status = .trusted ∧ record.relationship = args.relationship
      ∧ (args.«alias» = "" ∨ args.«alias» = record.«alias»)
      ∧ (∀ key, publicKey = some key → key = "" ∨ record.publicKey = some key)
      ∧ (∀ metadata, args.metadata = some metadata → record.metadata = metadata)
      ∧ record.updatedAt = now
  | .revoke reason => record.status = .revoked
      ∧ (∀ text, reason = some text →
        text = "" ∨ record.metadata.get? "revoke_reason" = some (.str text))
      ∧ record.updatedAt = now

variable {codec : RecordCodec} {scalars : ScalarCodec} {now : DateTime} {fault : Option SaveFault}
  {t : TrustService} {nodeId : String} {c : Change} {existing : Option TrustRecord}
  {record : TrustRecord}

theorem serialisable_record_iff :
    (c.record existing now nodeId).Serialisable scalars ↔ c.WellFormed scalars existing := by
  cases c with
  | grant publicKey args => cases existing <;> rfl
  | revoke reason => cases existing <;> rfl

theorem revokeMetadata_eq_iff {metadata : Dict PyValue} {reason : Option String} :
    revokeMetadata metadata reason = metadata
      ↔ ∀ text, reason = some text →
      text = "" ∨ metadata.get? "revoke_reason" = some (.str text) := by
  rw [revokeMetadata]
  rcases reason with _ | text
  · exact iff_of_true rfl nofun
  · by_cases hempty : text = ""
    · subst hempty
      exact iff_of_true rfl fun _ htext => .inl (Option.some.inj htext).symm
    · rw [orElse_some hempty]
      constructor
      · rintro hsame _ ⟨⟩
        exact .inr (hsame ▸ (Dict.get?_set ..).trans (if_pos rfl))
      · intro h
        exact Dict.set_of_get? ((h text rfl).resolve_left hempty)

theorem orElse_or_eq_iff {given held : Option String} :
    (orElse given held).or held = held ↔ ∀ text, given = some text →
    text = "" ∨ held = some text := by
  rcases given with _ | text
  · exact iff_of_true (Option.or_self ..) nofun
  · by_cases hempty : text = ""
    · subst hempty
      exact iff_of_true (Option.or_self ..) fun _ htext => .inl (Option.some.inj htext).symm
    · rw [orElse_some hempty, Option.some_or]
      constructor
      · rintro hheld _ ⟨⟩
        exact .inr hheld.symm
      · exact fun h => ((h text rfl).resolve_left hempty).symm

/-- What is made of the record that is held is that record if and only if the call repeats it. -/
theorem record_eq_iff : c.record (some record) now nodeId = record ↔ c.Repeats now record := by
  obtain ⟨nodeId', publicKey', status, relationship, «alias», createdAt, updatedAt, metadata⟩ :=
    record
  cases c with
  | grant publicKey args =>
      have halias : ((orElse (some args.«alias») (some «alias»)).getD «alias» = «alias»)
          ↔ args.«alias» = "" ∨ args.«alias» = «alias» := by
        by_cases hempty : args.«alias» = ""
        · rw [hempty]
          exact iff_of_true rfl (.inl rfl)
        · rw [orElse_some hempty, Option.getD_some, or_iff_right hempty]
      have hmetadata : args.metadata.getD metadata = metadata
          ↔ ∀ given, args.metadata = some given → metadata = given := by
        rcases args.metadata with _ | given
        · exact iff_of_true rfl nofun
        · rw [Option.getD_some]
          exact ⟨fun h _ hgiven => h.symm.trans (Option.some.inj hgiven),
            fun h => (h given rfl).symm⟩
      simp only [Change.record, grantedRecord, TrustRecord.withStatus, Change.Repeats,
        TrustRecord.mk.injEq, Option.getD_some, halias, hmetadata, orElse_or_eq_iff, true_and]
      tauto
  | revoke reason =>
      simp only [Change.record, revokedRecord, TrustRecord.withStatus, Change.Repeats,
        TrustRecord.mk.injEq, Option.getD_some, Option.getD_none, Option.none_or,
        revokeMetadata_eq_iff, true_and]
      tauto

theorem change_eq_putRecord :
    t.change codec now fault nodeId c
      = t.putRecord codec fault nodeId (c.record (t.records.get? nodeId) now nodeId) := by
  cases c with
  | grant publicKey args => rfl
  | revoke reason => rfl

theorem change_records : (t.change codec now fault nodeId c).2.records
    = t.records.set nodeId (c.record (t.records.get? nodeId) now nodeId) := by
  rw [change_eq_putRecord, putRecord_records]

theorem change_initialized : (t.change codec now fault nodeId c).2.initialized = t.initialized := by
  rw [change_eq_putRecord, putRecord_initialized]

theorem record_status_ne_unknown (existing : Option TrustRecord) :
    (c.record existing now nodeId).status ≠ .unknown := by
  cases c with
  | grant publicKey args =>
      rw [Change.record, grantedRecord_status]
      decide
  | revoke reason =>
      cases existing with
      | none => exact fun h => by cases h
      | some record => exact fun h => by cases h

theorem save_of_change {exc : Exc} (h : (t.change codec now fault nodeId c).1 = .error exc) :
    (t.change codec now fault nodeId c).2.store = t.store := by
  rw [change_eq_putRecord] at h ⊢
  cases hsave :
    (t.store.save codec fault
      (t.records.set nodeId (c.record (t.records.get? nodeId) now nodeId))).1 with
  | error exc' => exact TrustStore.save_of_error hsave
  | ok =>
      simp only [putRecord, hsave, Except.map] at h
      cases h

/-- What makes the record that is held already leaves nothing behind when it fails. -/
theorem change_of_held {exc : Exc}
    (hheld : t.records.get? nodeId = some (c.record (t.records.get? nodeId) now nodeId))
    (h : (t.change codec now fault nodeId c).1 = .error exc) :
    (t.change codec now fault nodeId c).2 = t := by
  have hstore := save_of_change h
  have hrecords : (t.change codec now fault nodeId c).2.records = t.records :=
    change_records.trans (Dict.set_of_get? hheld)
  have hinit : (t.change codec now fault nodeId c).2.initialized = t.initialized :=
    change_initialized
  generalize (t.change codec now fault nodeId c).2 = t' at *
  obtain ⟨store, records, initialized⟩ := t'
  cases hstore
  cases hrecords
  cases hinit
  rfl

/-- A change succeeds if and only if nothing fails and every record, the new one too, can be
serialized. -/
theorem change_succeeds_iff :
    (∃ written, (t.change scalars.recordCodec now fault nodeId c).1 = .ok written)
      ↔ fault = none
        ∧ c.WellFormed scalars (t.records.get? nodeId)
        ∧ ∀ other record, other ≠ nodeId → t.records.get? other = some record →
        record.Serialisable scalars := by
  have hsave : (∃ written, (t.change scalars.recordCodec now fault nodeId c).1 = .ok written)
      ↔ (t.store.save scalars.recordCodec fault
          (t.records.set nodeId (c.record (t.records.get? nodeId) now nodeId))).1 = .ok () := by
    rw [change_eq_putRecord]
    refine ⟨fun ⟨_, hput⟩ => save_of_putRecord hput, fun hsave => ?_⟩
    exact ⟨c.record (t.records.get? nodeId) now nodeId, by simp only [putRecord, hsave, Except.map]⟩
  rw [hsave, TrustStore.save_eq_ok_iff, ← serialisable_record_iff]
  refine and_congr_right fun _ => ?_
  simp only [ScalarCodec.recordCodec, TrustRecord.exists_modelDump_iff, Dict.get?_set]
  constructor
  · intro h
    refine ⟨h nodeId _ (if_pos rfl), fun other record hother hrecord => h other record ?_⟩
    rw [if_neg hother, hrecord]
  · rintro ⟨hnew, hothers⟩ other record hrecord
    split_ifs at hrecord with hother
    · exact Option.some.inj hrecord ▸ hnew
    · exact hothers other record hother hrecord

/-- A change that raises leaves everything as it was: what the reads return, the file, and whether
another node can be granted trust or revoked. -/
def AtomicOnFailure (scalars : ScalarCodec) (now : DateTime) (fault : Option SaveFault)
    (t : TrustService) (nodeId : String) (c : Change) : Prop :=
  ∀ exc t', t.change scalars.recordCodec now fault nodeId c = (.error exc, t') →
    (∀ now' other, (t'.getRecord scalars.recordCodec now' other).1
      = (t.getRecord scalars.recordCodec now' other).1)
      ∧ (∀ statusFilter, (t'.listRecords scalars.recordCodec statusFilter).1
        = (t.listRecords scalars.recordCodec statusFilter).1)
      ∧ t'.store.file = t.store.file
      ∧ ∀ now' other (c' : Change), other ≠ nodeId →
        c'.WellFormed scalars (t.records.get? other) →
        ∃ written, (t'.change scalars.recordCodec now' none other c').1 = .ok written

theorem exists_unnamed (t : TrustService) (nodeId : String) :
    ∃ other, other ≠ nodeId ∧ t.records.get? other = none := by
  obtain ⟨other, hother⟩ :=
    Infinite.exists_notMem_finset (nodeId :: t.records.entries.map Prod.fst).toFinset
  rw [List.mem_toFinset, List.mem_cons, not_or] at hother
  exact ⟨other, hother.1, Dict.lookup_eq_none_iff.mpr hother.2⟩

/-- **Trust changes that fail.** A change is atomic if and only if every record can be serialized
and either no file operation fails or the change repeats what is held already. -/
theorem atomicOnFailure_iff (scalars : ScalarCodec) (now : DateTime)
    (fault : Option SaveFault) (t : TrustService) (nodeId : String) (c : Change)
    (hinit : t.initialized = true) :
    AtomicOnFailure scalars now fault t nodeId c
      ↔ (c.WellFormed scalars (t.records.get? nodeId)
          ∧ ∀ other record, other ≠ nodeId → t.records.get? other = some record →
            record.Serialisable scalars)
        ∧ (fault = none
          ∨ ∃ record, t.records.get? nodeId = some record ∧ c.Repeats now record) := by
  constructor
  · intro h
    rcases hchange : t.change scalars.recordCodec now fault nodeId c with ⟨exc | written, t'⟩
    · obtain ⟨hget, -, -, hlater⟩ := h exc t' hchange
      have hrecords : t'.records
        = t.records.set nodeId (c.record (t.records.get? nodeId) now nodeId) :=
        (congrArg (·.2.records) hchange).symm.trans change_records
      have hinit' : t'.initialized = true :=
        (congrArg (·.2.initialized) hchange).symm.trans (change_initialized.trans hinit)
      have hput := hget now nodeId
      rw [getRecord_of_initialized hinit, getRecord_of_initialized hinit', hrecords, Dict.getD,
        Dict.get?_set, if_pos rfl, Option.getD_some, Except.ok.injEq, Dict.getD] at hput
      refine ⟨?_, .inr ?_⟩
      · -- Revoking a node that is not known yet asks for all the other records.
        obtain ⟨unnamed, hne, hunnamed⟩ := exists_unnamed t nodeId
        have hnew : (Change.revoke none).WellFormed scalars (t.records.get? unnamed) := by
          rw [hunnamed]
          intro k v hv
          cases hv
        obtain ⟨-, -, hothers⟩ :=
          change_succeeds_iff.mp (hlater now unnamed (.revoke none) hne hnew)
        rw [hrecords] at hothers
        refine ⟨serialisable_record_iff.mp
          (hothers nodeId _ hne.symm ((Dict.get?_set ..).trans (if_pos rfl))),
          fun other record hother hrecord => ?_⟩
        refine hothers other record ?_ ((Dict.get?_set ..).trans ((if_neg hother).trans hrecord))
        rintro rfl
        rw [hunnamed] at hrecord
        cases hrecord
      · cases hexisting : t.records.get? nodeId with
        | none =>
            rw [hexisting, Option.getD_none] at hput
            exact absurd (congrArg TrustRecord.status hput) (record_status_ne_unknown _)
        | some record =>
            rw [hexisting, Option.getD_some] at hput
            exact ⟨record, rfl, record_eq_iff.mp hput⟩
    · have hsuccess : ∃ written, (t.change scalars.recordCodec now fault nodeId c).1
        = .ok written :=
        ⟨written, congrArg Prod.fst hchange⟩
      obtain ⟨hfault, hserialisable⟩ := change_succeeds_iff.mp hsuccess
      exact ⟨hserialisable, .inl hfault⟩
  · rintro ⟨⟨hnew, hothers⟩, hfault | ⟨held, hheld, hrepeats⟩⟩ exc t' hchange
    · obtain ⟨written, hwritten⟩ := change_succeeds_iff.mpr ⟨hfault, hnew, hothers⟩
      rw [hchange] at hwritten
      cases hwritten
    · have hsame : t.records.get? nodeId = some (c.record (t.records.get? nodeId) now nodeId) := by
        rw [hheld, record_eq_iff.mpr hrepeats]
      obtain rfl : t' = t := by
        rw [← change_of_held hsame (congrArg Prod.fst hchange), hchange]
      refine ⟨fun _ _ => rfl, fun _ => rfl, rfl, fun now' other c' hne hnew' => ?_⟩
      refine change_succeeds_iff.mpr ⟨rfl, hnew', fun other' record hother' hrecord => ?_⟩
      by_cases hnamed : other' = nodeId
      · subst hnamed
        rw [hsame, Option.some.injEq] at hrecord
        exact hrecord ▸ serialisable_record_iff.mpr hnew
      · exact hothers other' record hnamed hrecord

def noRecords : TrustService := ⟨⟨"trust_store.json", .absent⟩, ∅, true⟩

/-- The node `n` has been granted trust. -/
def grantedOnce : TrustService :=
  ⟨⟨"trust_store.json", .absent⟩, Dict.empty.set "n" (grantedRecord none .epoch "n" none {}), true⟩

/-- The grant is repeated, and fails. -/
theorem atomicOnFailure_iff_grantedOnce :
    grantedOnce.initialized = true
      ∧ AtomicOnFailure ScalarCodec.iso .epoch (some (.mkdir "Permission denied")) grantedOnce "n"
        (.grant none {}) := by
  refine ⟨rfl,
    (atomicOnFailure_iff ScalarCodec.iso .epoch _ grantedOnce "n" (.grant none {}) rfl).mpr ?_⟩
  have hrecord : grantedOnce.records.get? "n" = some (grantedRecord none .epoch "n" none {}) := rfl
  refine ⟨⟨fun k v hv => ?_, fun other record hother hheld => ?_⟩, .inr ⟨_, hrecord, ?_⟩⟩
  · cases hv
  · rw [grantedOnce, Dict.get?_set, if_neg hother] at hheld
    cases hheld
  · have hrepeats :
        Change.record (some (grantedRecord none .epoch "n" none {})) .epoch "n" (.grant none {})
          = grantedRecord none .epoch "n" none {} := rfl
    exact record_eq_iff.mp hrepeats

/-- The node is trusted from then on, although the grant failed. -/
theorem failed_grant_is_kept :
    ¬AtomicOnFailure ScalarCodec.iso .epoch (some (.mkdir "Permission denied")) noRecords "n"
      (.grant none {}) := by
  intro h
  obtain ⟨hget, -⟩ := h _ _ rfl
  have hstatus := congrArg (Except.map TrustRecord.status) (hget .epoch "n")
  cases hstatus

end TrustService

end Shyam
