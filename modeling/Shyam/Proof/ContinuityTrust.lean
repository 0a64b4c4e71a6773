import Shyam.Continuity.World
import Shyam.Proof.ContinuityRuns
import Shyam.Proof.TrustHistory

/-!
# Revocation during a run

One call of `request_continuity` beside the trust service that it asks. Between two of its
operations the service may do anything. The call reads the record of its target once, at the stage
AUTHORIZED, and goes by what it read.
-/

namespace Shyam

open Python Interaction Transition

namespace Continuity

variable {Snapshot : Type}

structure TrustedCall (Snapshot : Type) where
  trust : TrustService
  task : Task Snapshot

namespace TrustedCall

inductive Action (Snapshot : Type) where
  | resume (now : DateTime) (collaborator : (op : Op Snapshot) → Answer Snapshot op)
  | trust (op : TrustService.Op)

variable (codec : RecordCodec)

/-- `get_record` is answered by the trust service, the rest by the other collaborators. -/
def respond (trust : TrustService) (now : DateTime)
    (collaborator : (op : Op Snapshot) → Answer Snapshot op) :
    (op : Op Snapshot) → Answer Snapshot op × TrustService
  | .getRecord nodeId =>
      ((trust.getRecord codec now nodeId).1.map some, (trust.getRecord codec now nodeId).2)
  | op => (collaborator op, trust)

def step (c : TrustedCall Snapshot) : Action Snapshot → TrustedCall Snapshot
  | .resume now collaborator =>
      match c.task.rest with
      | .ask op next =>
          { trust := (respond codec c.trust now collaborator op).2
            task := { c.task with
              past := c.task.past ++ [⟨op, (respond codec c.trust now collaborator op).1⟩]
              rest := next (respond codec c.trust now collaborator op).1 } }
      | .done _ => c
  | .trust op => { c with trust := c.trust.perform codec op }

def pending (c : TrustedCall Snapshot) : Option (Op Snapshot) :=
  match c.task.rest with
  | .ask op _ => some op
  | .done _ => none

def start (errorText : PyValue → PyValue → String) (trust : TrustService) (continuityId : String)
    (request : ContinuityRequest) : TrustedCall Snapshot :=
  ⟨trust, request, [], requestContinuity errorText continuityId request⟩

def Trusts (trust : TrustService) (nodeId : String) : Prop :=
  ∀ now, ∃ record, (trust.getRecord codec now nodeId).1 = .ok record ∧ record.status = .trusted

/-- The step does not write the record of the node. -/
def Spares (nodeId : String) : Action Snapshot → Prop
  | .resume _ _ => True
  | .trust op => op.written ≠ some nodeId

variable {codec} {c : TrustedCall Snapshot} {errorText : PyValue → PyValue → String}
  {trust : TrustService} {continuityId : String} {request : ContinuityRequest}

/-- A started operation is where it belongs in the run. -/
theorem starts_pending {actions : List (Action Snapshot)} {op : Op Snapshot}
    (hpending : (run (step codec) (start errorText trust continuityId request) actions).pending
      = some op) :
    Starts continuityId request
      (run (step codec) (start errorText trust continuityId request) actions).task.past op := by
  have hmeets : Program.Meets (Starts continuityId request) (Ends continuityId request)
      (run (step codec) (start errorText trust continuityId request) actions).task.past
      (run (step codec) (start errorText trust continuityId request) actions).task.rest := by
    apply run_of_invariant (I := fun (c : TrustedCall Snapshot) =>
      Program.Meets (Starts continuityId request)
      (Ends continuityId request) c.task.past c.task.rest)
    · intro c a h
      cases a with
      | trust op => exact h
      | resume now collaborator =>
          rw [step]
          cases hrest : c.task.rest with
          | done result => exact h
          | ask op next =>
              rw [hrest] at h
              exact h.2 _
    · exact meets_requestContinuity
  generalize run (step codec) (start errorText trust continuityId request) actions = c at *
  rw [pending] at hpending
  cases hrest : c.task.rest with
  | done result =>
      rw [hrest] at hpending
      cases hpending
  | ask op' next =>
      rw [hrest] at hpending hmeets
      cases hpending
      exact hmeets.1

/-- What the call has asked, it was answered in a step of the run. -/
theorem answered_of_mem {actions : List (Action Snapshot)} {e : Event (Answer Snapshot)}
    (he : e ∈ (run (step codec) c actions).task.past) (hnone : c.task.past = []) :
    ∃ before now collaborator after, actions = before ++ .resume now collaborator :: after
      ∧ (run (step codec) c before).pending = some e.op
      ∧ (respond codec (run (step codec) c before).trust now collaborator e.op).1 = e.answer := by
  induction actions using List.reverseRecOn with
  | nil =>
      rw [run_nil, hnone] at he
      cases he
  | append_singleton actions a ih =>
      have hlater (h : e ∈ (run (step codec) c actions).task.past) :
          ∃ before now collaborator after,
            actions ++ [a] = before ++ .resume now collaborator :: after
              ∧ (run (step codec) c before).pending = some e.op
              ∧ (respond codec (run (step codec) c before).trust now collaborator e.op).1
                = e.answer := by
        obtain ⟨before, now, collaborator, after, rfl, hanswered⟩ := ih h
        exact ⟨before, now, collaborator, after ++ [a], by simp, hanswered⟩
      rw [run_append, run_cons, run_nil] at he
      cases a with
      | trust op => exact hlater he
      | resume now collaborator =>
          rw [step] at he
          cases hrest : (run (step codec) c actions).task.rest with
          | done result =>
              rw [hrest] at he
              exact hlater he
          | ask op next =>
              rw [hrest] at he
              obtain he | he := List.mem_append.mp he
              · exact hlater he
              · rw [List.mem_singleton] at he
                subst he
                exact ⟨actions, now, collaborator, [], rfl, by rw [pending, hrest], rfl⟩

/-- The service has loaded its records and trusts the node. -/
def Loaded (trust : TrustService) (nodeId : String) : Prop :=
  trust.initialized = true
    ∧ ∃ record, trust.records.get? nodeId = some record ∧ record.status = .trusted

theorem Loaded.trusts {nodeId : String} (h : Loaded trust nodeId) : Trusts codec trust nodeId := by
  obtain ⟨hinit, record, hrecord, hstatus⟩ := h
  intro now
  refine ⟨record, ?_, hstatus⟩
  rw [TrustService.getRecord_of_initialized hinit, Dict.getD, hrecord, Option.getD_some]

theorem loaded_of_getRecord {now : DateTime} {nodeId : String} {record : TrustRecord}
    (hread : (trust.getRecord codec now nodeId).1 = .ok record)
    (hstatus : record.status = .trusted) :
    Loaded (trust.getRecord codec now nodeId).2 nodeId := by
  cases hload : trust.ensureInitialized codec with
  | error exc =>
      simp only [TrustService.getRecord, hload] at hread
      cases hread
  | ok trust' =>
      simp only [TrustService.getRecord, hload, Except.ok.injEq] at hread ⊢
      refine ⟨TrustService.initialized_of_ensureInitialized hload, ?_⟩
      cases hrecord : trust'.records.get? nodeId with
      | some found =>
          rw [Dict.getD, hrecord, Option.getD_some] at hread
          exact ⟨found, rfl, hread ▸ hstatus⟩
      | none =>
          rw [Dict.getD, hrecord, Option.getD_none] at hread
          rw [← hread] at hstatus
          cases hstatus

theorem Loaded.step {nodeId : String} {a : Action Snapshot} (h : Loaded c.trust nodeId)
    (hspares : Spares nodeId a) : Loaded (step codec c a).trust nodeId := by
  obtain ⟨hinit, hrecord⟩ := h
  cases a with
  | resume now collaborator =>
      rw [TrustedCall.step]
      split
      · rename_i op next _
        cases op with
        | getRecord other =>
            rw [respond, TrustService.getRecord_of_initialized hinit]
            exact ⟨hinit, hrecord⟩
        | enter | store | createSnapshot | navigate | transfer | continueWork =>
            exact ⟨hinit, hrecord⟩
      · exact ⟨hinit, hrecord⟩
  | trust op =>
      change Loaded (c.trust.perform codec op) nodeId
      rw [TrustService.perform]
      cases hwritten : op.written with
      | none =>
          rw [(TrustService.call_of_read hwritten
            (TrustService.ensureInitialized_of_initialized hinit)).2]
          exact ⟨hinit, hrecord⟩
      | some other =>
          have hne : nodeId ≠ other := by
            rintro rfl
            exact hspares hwritten
          obtain ⟨fault, record, hcall⟩ := TrustService.call_of_write codec c.trust hwritten
          rw [hcall]
          refine ⟨hinit, ?_⟩
          change ∃ found, (c.trust.records.set other record).get? nodeId = some found ∧ _
          rw [Dict.get?_set, if_neg hne]
          exact hrecord

theorem Loaded.run (codec : RecordCodec) {nodeId : String} {actions : List (Action Snapshot)}
    (h : Loaded c.trust nodeId) (hspares : ∀ a ∈ actions, Spares nodeId a) :
    Loaded (Transition.run (TrustedCall.step codec) c actions).trust nodeId := by
  have halong : Along (TrustedCall.step codec) (fun _ a => Spares nodeId a) c actions :=
    along_of_forall_mem hspares
  exact halong.invariant (I := fun (c : TrustedCall Snapshot) => Loaded c.trust nodeId)
    (fun _ _ h hspares => h.step hspares) h

/-- **Trust is read once.** A transfer or a hand-over is only started after a step in which the call
read the record of its target and found it trusted. It is trusted still, unless the record was
written since. -/
theorem started_after_trusted_read (codec : RecordCodec) (errorText : PyValue → PyValue → String)
    (trust : TrustService) (continuityId : String) (request : ContinuityRequest)
    (actions : List (Action Snapshot)) :
    let c := run (step codec) (start errorText trust continuityId request) actions
    (∃ peerId artifactPath, c.pending = some (.transfer peerId artifactPath))
        ∨ (∃ portableWork sourceDeviceId id targetUrl,
          c.pending = some (.continueWork portableWork sourceDeviceId id targetUrl)) →
      ∃ candidate before now collaborator after record,
        Selected c.task.past candidate ∧ actions = before ++ .resume now collaborator :: after
          ∧ (run (step codec) (start errorText trust continuityId request) before).pending
            = some (.getRecord candidate.nodeId)
          ∧ ((run (step codec) (start errorText trust continuityId request) before).trust.getRecord
              codec now candidate.nodeId).1 = .ok record
          ∧ record.status = .trusted
          ∧ ((∀ a ∈ after, Spares candidate.nodeId a) → Trusts codec c.trust candidate.nodeId) := by
  intro c hstarted
  have hcleared : ∃ candidate peerId done, Cleared c.task.past candidate peerId done := by
    obtain ⟨peerId, artifactPath, hpending⟩ | ⟨_, _, _, _, hpending⟩ := hstarted
    · obtain ⟨-, -, candidate, done, hcleared, -⟩ := starts_pending hpending
      exact ⟨candidate, peerId, done, hcleared⟩
    · obtain ⟨-, -, -, candidate, peerId, done, hcleared, -⟩ := starts_pending hpending
      exact ⟨candidate, peerId, done, hcleared⟩
  obtain ⟨_, _, _, hcleared⟩ := hcleared
  obtain ⟨candidate, record, hselected, hstatus, hmem⟩ := hcleared.trusted
  obtain ⟨before, now, collaborator, after, hactions, hpending, hanswer⟩ :=
    answered_of_mem hmem rfl
  have hread : ((run (step codec) (start errorText trust continuityId request)
      before).trust.getRecord codec now candidate.nodeId).1 = .ok record := by
    change Except.map some ((run (step codec) (start errorText trust continuityId request)
      before).trust.getRecord codec now candidate.nodeId).1 = .ok (some record) at hanswer
    cases hread : ((run (step codec) (start errorText trust continuityId request)
        before).trust.getRecord codec now candidate.nodeId).1 with
    | error exc =>
        rw [hread] at hanswer
        cases hanswer
    | ok found =>
        rw [hread] at hanswer
        cases hanswer
        rfl
  refine ⟨candidate, before, now, collaborator, after, record, hselected, hactions, hpending, hread,
    hstatus, fun hspares => ?_⟩
  subst hactions
  have hloaded : Loaded (step codec (run (step codec) (start errorText trust continuityId request)
      before) (.resume now collaborator)).trust candidate.nodeId := by
    have hnow := loaded_of_getRecord hread hstatus
    generalize run (step codec) (start errorText trust continuityId request) before = c' at *
    rw [pending] at hpending
    rw [step]
    cases hrest : c'.task.rest with
    | done result =>
        rw [hrest] at hpending
        cases hpending
    | ask op next =>
        rw [hrest] at hpending
        cases hpending
        exact hnow
  have hkept := hloaded.run codec hspares
  rw [← run_cons, ← run_append] at hkept
  exact hkept.trusts

def twoArtifacts : ContinuityRequest :=
  { ContinuityService.draftRequest with artifactPaths := ["draft.txt", "notes.txt"] }

def untilTransfer : List (Action Unit) :=
  List.replicate 11 (.resume .epoch (ContinuityService.obliging .completed []))

def startTwo : TrustedCall Unit :=
  start (fun _ _ => "") (TrustService.trusting (PySet.empty.add "b")) "c" twoArtifacts

theorem started_after_trusted_read_draft :
    ∃ candidate, Selected (run (step ScalarCodec.iso.recordCodec) startTwo untilTransfer).task.past
      candidate := by
  have hpending : (run (step ScalarCodec.iso.recordCodec) startTwo untilTransfer).pending
      = some (.transfer "b" "draft.txt") := rfl
  obtain ⟨candidate, _, _, _, _, _, hselected, -⟩ := started_after_trusted_read
    ScalarCodec.iso.recordCodec (fun _ _ => "") (TrustService.trusting (PySet.empty.add "b")) "c"
    twoArtifacts untilTransfer (Or.inl ⟨_, _, hpending⟩)
  exact ⟨candidate, hselected⟩

/-- The target is revoked during the first transfer, and the second is started all the same. -/
theorem transfer_started_after_revocation :
    let revoked := run (step ScalarCodec.iso.recordCodec) startTwo
      (untilTransfer ++ [.trust (.revokeTrust .epoch none "b" none)])
    let c := step ScalarCodec.iso.recordCodec revoked
      (.resume .epoch (ContinuityService.obliging .completed []))
    revoked.pending = some (.transfer "b" "draft.txt")
      ∧ c.pending = some (.transfer "b" "notes.txt")
      ∧ (c.trust.getRecord ScalarCodec.iso.recordCodec .epoch "b").1.map TrustRecord.status
        = .ok .revoked := by
  refine ⟨rfl, rfl, rfl⟩

end TrustedCall

end Continuity

end Shyam
