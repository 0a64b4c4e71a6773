import Shyam.Bootstrap.Receiver
import Shyam.Lib.Run

/-!
# Revocation

Both entry points of a remote party look at the record of the node first, and neither writes a
record that is revoked. A decision about another node rewrites the whole store, in memory and on
disk, with the revoked record in it. So a revocation lasts until the operator grants trust to that
node again.
-/

namespace Shyam

open Python Transition

namespace TrustService

variable {codec : RecordCodec} {now : DateTime} {fault : Option SaveFault} {t : TrustService}
  {nodeId other : String}

/-- The record of the node is revoked, in memory and in what the next read finds. -/
structure Revokes (codec : RecordCodec) (t : TrustService) (nodeId : String) : Prop where
  memory : ∃ record, t.records.get? nodeId = some record ∧ record.status = .revoked
  read : ∃ t', t.ensureInitialized codec = .ok t'
    ∧ ∃ record, t'.records.get? nodeId = some record ∧ record.status = .revoked

theorem revokes_of_initialized {record : TrustRecord} (hinit : t.initialized = true)
    (hrecord : t.records.get? nodeId = some record) (hstatus : record.status = .revoked) :
    t.Revokes codec nodeId :=
  ⟨⟨record, hrecord, hstatus⟩, t, ensureInitialized_of_initialized hinit, record, hrecord, hstatus⟩

theorem Revokes.record (h : t.Revokes codec nodeId) (now : DateTime) :
    ∃ record, (t.getRecord codec now nodeId).1 = .ok record ∧ record.status = .revoked := by
  obtain ⟨t', ht', record, hrecord, hstatus⟩ := h.read
  refine ⟨record, ?_, hstatus⟩
  simp only [TrustService.getRecord, ht', Dict.getD, hrecord, Option.getD_some]

theorem Revokes.getRecord (h : t.Revokes codec nodeId) (now : DateTime) (other : String) :
    (t.getRecord codec now other).2.Revokes codec nodeId := by
  obtain ⟨t', ht', record, hrecord, hstatus⟩ := h.read
  have hlookup : (t.getRecord codec now other).2 = t' := by simp only [TrustService.getRecord, ht']
  rw [hlookup]
  exact revokes_of_initialized (initialized_of_ensureInitialized ht') hrecord hstatus

theorem Revokes.putRecord (hcodec : codec.Restores KeepsStanding) (hne : nodeId ≠ other)
    (h : t.Revokes codec nodeId) (record : TrustRecord) :
    (t.putRecord codec fault other record).2.Revokes codec nodeId := by
  obtain ⟨old, hold, hstatus⟩ := h.memory
  have hmemory : (t.putRecord codec fault other record).2.records.get? nodeId = some old := by
    rw [putRecord_records, Dict.get?_set, if_neg hne, hold]
  by_cases hinit : t.initialized = true
  · exact revokes_of_initialized (putRecord_initialized.trans hinit) hmemory hstatus
  · refine ⟨⟨old, hmemory, hstatus⟩, ?_⟩
    cases hput : (t.putRecord codec fault other record).1 with
    | error exc =>
        rw [ensureInitialized_putRecord_of_error hinit hput]
        exact h.read
    | ok written =>
        obtain ⟨t', ht', hrel⟩ := ensureInitialized_putRecord_of_ok hcodec hinit hput
        have hfound := hrel nodeId
        rw [hmemory] at hfound
        generalize hrecord : t'.records.get? nodeId = found at hfound
        cases hfound with
        | some hkeeps => exact ⟨t', ht', _, hrecord, hkeeps.1.trans hstatus⟩

/-- **A revocation that succeeds revokes**, also when the next read loads the file again. -/
theorem revokes_revokeTrust {reason : Option String} {record : TrustRecord}
    (hcodec : codec.Restores KeepsStanding)
    (hrevoke : (t.revokeTrust codec now fault nodeId reason).1 = .ok record) :
    (t.revokeTrust codec now fault nodeId reason).2.Revokes codec nodeId := by
  have hstatus : (revokedRecord (t.records.get? nodeId) now nodeId reason).status = .revoked := by
    cases t.records.get? nodeId <;> rfl
  have hmemory : (t.revokeTrust codec now fault nodeId reason).2.records.get? nodeId
      = some (revokedRecord (t.records.get? nodeId) now nodeId reason) := by
    rw [revokeTrust, putRecord_records, Dict.get?_set, if_pos rfl]
  by_cases hinit : t.initialized = true
  · exact revokes_of_initialized (putRecord_initialized.trans hinit) hmemory hstatus
  · obtain ⟨t', ht', hrel⟩ := ensureInitialized_putRecord_of_ok hcodec hinit hrevoke
    have hfound := hrel nodeId
    rw [← revokeTrust, hmemory] at hfound
    generalize hrecord : t'.records.get? nodeId = found at hfound
    cases hfound with
    | some hkeeps =>
        exact ⟨⟨_, hmemory, hstatus⟩, t', ht', _, hrecord, hkeeps.1.trans hstatus⟩

end TrustService

namespace Receiver

variable {ed : Ed25519} {codec : RecordCodec} {r : Receiver} {nodeId : String}

def Spares (nodeId : String) : Event → Prop
  | .inbound _ => True
  | .grantTrust _ _ other _ _ => other ≠ nodeId
  | .revokeTrust _ _ other _ => other ≠ nodeId

theorem revokes_receive (hcodec : codec.Restores TrustService.KeepsStanding)
    (h : r.trust.Revokes codec nodeId) (x : Inbound) :
    (r.receive ed codec x).trust.Revokes codec nodeId := by
  cases x with
  | bootstrapRequest now fault request =>
      rw [receive]
      rcases BootstrapService.handleIncomingRequest_cases ed codec r.bootstrap now fault r.trust
        request with ⟨-, htrust⟩ | ⟨-, -, htrust⟩ | ⟨-, record, hrecord, hstands, htrust⟩
      · rw [htrust]
        exact h
      · rw [htrust]
        exact h.getRecord now request.nodeId
      · have hne : nodeId ≠ request.nodeId := by
          rintro rfl
          obtain ⟨revoked, hrevoked, hstatus⟩ := h.record now
          rw [hrecord, Except.ok.injEq] at hrevoked
          exact hstands (hrevoked ▸ hstatus)
        rw [htrust]
        exact (h.getRecord now request.nodeId).putRecord hcodec hne _
  | syncEnvelope now e =>
      rcases receive_syncEnvelope_trust ed codec r now e with htrust | htrust
      · exact htrust ▸ h
      · exact htrust ▸ h.getRecord now e.senderNodeId

theorem revokes_handle (hcodec : codec.Restores TrustService.KeepsStanding)
    (h : r.trust.Revokes codec nodeId) {event : Event} (hspares : Spares nodeId event) :
    (r.handle ed codec event).trust.Revokes codec nodeId := by
  cases event with
  | inbound x => exact revokes_receive hcodec h x
  | grantTrust now fault other publicKey args => exact h.putRecord hcodec (Ne.symm hspares) _
  | revokeTrust now fault other reason => exact h.putRecord hcodec (Ne.symm hspares) _

theorem process_of_revokes (h : r.trust.Revokes codec nodeId) {now : DateTime} {e : SyncEnvelope}
    (hsender : e.senderNodeId = nodeId) :
    (r.sync.processIncomingEnvelope ed codec now r.trust e).service = r.sync := by
  apply SyncService.process_of_not_accepts
  rintro ⟨-, verdict, hverdict, hvalid⟩
  obtain ⟨-, record, hrecord, hauth⟩ := SyncAuthenticator.authenticateIncoming_valid hverdict hvalid
  obtain ⟨revoked, hrevoked, hstatus⟩ := h.record now
  rw [hsender, hrevoked, Except.ok.injEq] at hrecord
  have htrusted := hauth.trusted
  rw [← hrecord, hstatus] at htrusted
  exact absurd htrusted (by decide)

/-- **Revocation is sticky.** After a revocation, whatever is received and whatever the operator
decides about other nodes, the record stays revoked, requests in the node's name are answered and
not accepted, and envelopes in its name change nothing. -/
theorem revocation_sticky {trust : TrustService} {sync : SyncService} {identity : Option String}
    {now : DateTime} {fault : Option SaveFault} {reason : Option String} {revoked : TrustRecord}
    {events : List Event} (hcodec : codec.Restores TrustService.KeepsStanding)
    (hrevoke : (trust.revokeTrust codec now fault nodeId reason).1 = .ok revoked)
    (hspares : ∀ event ∈ events, Spares nodeId event) :
    let r := run (handle ed codec)
      ⟨identity, (trust.revokeTrust codec now fault nodeId reason).2, sync⟩ events
    (∀ later, ∃ record, (r.trust.getRecord codec later nodeId).1 = .ok record
        ∧ record.status = .revoked)
      ∧ (∀ later fault request, request.nodeId = nodeId → ∃ response,
          (r.bootstrap.handleIncomingRequest ed codec later fault r.trust request).1 = .ok response
            ∧ response.accepted = false)
      ∧ ∀ later e, e.senderNodeId = nodeId →
          (r.sync.processIncomingEnvelope ed codec later r.trust e).service = r.sync := by
  intro r
  have hrevokes : r.trust.Revokes codec nodeId := by
    have hstart := TrustService.revokes_revokeTrust hcodec hrevoke
    exact (along_of_forall_mem hspares).invariant
      (I := fun (r : Receiver) => r.trust.Revokes codec nodeId)
        (fun _ _ h hspares => revokes_handle hcodec h hspares) hstart
  refine ⟨hrevokes.record, fun later fault request hnode => ?_, fun later e hsender => ?_⟩
  · subst hnode
    obtain ⟨record, hrecord, hstatus⟩ := hrevokes.record later
    exact BootstrapService.handleIncomingRequest_of_revoked ed codec _ _ _ hrecord hstatus
  · exact process_of_revokes hrevokes hsender

def unloaded : TrustService := ⟨⟨"trust_store.json", .absent⟩, ∅, false⟩

noncomputable def revoker : Receiver where
  identity := some "b"
  trust := (unloaded.revokeTrust ScalarCodec.iso.recordCodec .epoch none "n" none).2
  sync := .new "b" ⟨[2]⟩ 1000

def readmission : List Event := [
  .grantTrust .epoch none "m" none {},
  .inbound (.bootstrapRequest .epoch none
    ({ requestId := "r", nodeId := "n", publicKey := "", nodeName := "", timestamp := .epoch
       signature := "" : BootstrapRequest }.sign transparentEd25519 ⟨[9]⟩))]

theorem revocation_sticky_readmission :
    ∃ record, ((run (handle transparentEd25519 ScalarCodec.iso.recordCodec) revoker
        readmission).trust.getRecord ScalarCodec.iso.recordCodec .epoch "n").1 = .ok record
      ∧ record.status = .revoked := by
  have hrevoke : (unloaded.revokeTrust ScalarCodec.iso.recordCodec .epoch none "n" none).1
      = .ok (TrustService.revokedRecord none .epoch "n" none) := rfl
  have hspares : ∀ event ∈ readmission, Spares "n" event := by simp [readmission, Spares]
  exact (revocation_sticky (TrustService.keepsStanding ScalarCodec.iso_lawful) hrevoke hspares).1
    .epoch

end Receiver

end Shyam
