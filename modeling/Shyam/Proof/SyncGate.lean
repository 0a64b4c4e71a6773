import Shyam.Lib.Run
import Shyam.Sync.Facts

/-!
# What gets into a service, and how often

Nothing changes a service's synchronized state without passing the whole authentication gate. What
has passed once and reached the comparison is dominated by the version vector from then on, since no
operation lowers a component of it, so a later delivery merges nothing, whatever the bounded list of
processed messages has forgotten by then.
-/

namespace Shyam

open Python Transition

namespace SyncService

variable {ed : Ed25519} {codec : RecordCodec} {now now' : DateTime} {trust trust' : TrustService}
  {s : SyncService} {e : SyncEnvelope}

theorem getVersion_le_of_compared (haccepts : Accepts ed codec now trust s e)
    (hnew : e.messageId ∉ s.processedMessageIds) :
    e.getVersion ≤ (s.processIncomingEnvelope ed codec now trust e).service.getVersion := by
  rw [(process_of_accepts haccepts).1, ← replica_vec, replica_ingest hnew,
    Gossip.Replica.receive_vec]
  exact le_sup_right

/-- **The gate of ingestion.** An envelope that changes anything is not the service's own, speaks
the current protocol, comes from a trusted sender whose pinned key is missing or its own, and
carries a signature that verifies under that key over its signable bytes. An own envelope, or one
that the authenticator rejects or raises on, changes nothing. -/
theorem process_changed_authenticated :
    ((s.processIncomingEnvelope ed codec now trust e).service ≠ s →
      e.senderNodeId ≠ s.localNodeId ∧ e.protocolVersion = syncProtocolVersion ∧
        ∃ record, (trust.getRecord codec now e.senderNodeId).1 = .ok record
          ∧ record.status = .trusted
          ∧ (record.pinnedKey = "" ∨ record.pinnedKey = e.senderPublicKey)
          ∧ ∃ rawSig bytes, Base64.b64decode e.signature = .ok rawSig
            ∧ getSignableBytes e = .ok bytes
            ∧ KeyPair.verifyWithPublicKey ed e.senderPublicKey bytes rawSig = true)
    ∧ ((e.senderNodeId = s.localNodeId
        ∨ ∀ verdict, (SyncAuthenticator.authenticateIncoming ed codec now trust e).1 = .ok verdict →
            verdict.valid = false) →
        (s.processIncomingEnvelope ed codec now trust e).service = s) := by
  constructor
  · intro hchanged
    have haccepts : Accepts ed codec now trust s e := by
      by_contra h
      exact hchanged (process_of_not_accepts h)
    obtain ⟨hsender, verdict, hverdict, hvalid⟩ := haccepts
    obtain ⟨hprotocol, record, hrecord, hauth⟩ :=
      SyncAuthenticator.authenticateIncoming_valid hverdict hvalid
    exact ⟨hsender, hprotocol, record, hrecord, hauth.trusted, hauth.pinned,
      SyncAuthenticator.verifySignature_eq_true_iff.mp hauth.verified⟩
  · intro hrejected
    apply process_of_not_accepts
    rintro ⟨hsender, verdict, hverdict, hvalid⟩
    rcases hrejected with hself | hinvalid
    · exact hsender hself
    · rw [hinvalid verdict hverdict] at hvalid
      exact Bool.false_ne_true hvalid

/-- The first envelope of a node that has published once, at a node that has not. -/
theorem process_changed_authenticated_sample :
    let a := (new "a" ⟨[1]⟩ 1000).incrementLocalVersion.2
    let e := a.signedEnvelope transparentEd25519 .insertion "sync_response" "m" .epoch
    let b := new "b" ⟨[2]⟩ 1000
    let trust := TrustService.trusting ⟨["a"], by decide⟩
    (b.processIncomingEnvelope transparentEd25519 .unused .epoch trust e).service ≠ b
      ∧ e.protocolVersion = syncProtocolVersion := by
  intro a e b trust
  have haccepts : Accepts transparentEd25519 .unused .epoch trust b e :=
    accepts_signedEnvelope_of_trusting transparentEd25519_lawful (by decide) (by decide) (by decide)
  have hchanged : (b.processIncomingEnvelope transparentEd25519 .unused .epoch trust e).service
      ≠ b := by
    intro h
    have hle := getVersion_le_of_compared haccepts List.not_mem_nil
    rw [h] at hle
    exact absurd (hle "a") (by decide)
  exact ⟨hchanged, (process_changed_authenticated.1 hchanged).2.1⟩

/-! ### Redelivery -/

theorem process_of_dominated (hle : e.getVersion ≤ s.getVersion) :
    (s.processIncomingEnvelope ed codec now trust e).service.versionMap = s.versionMap
      ∧ (s.processIncomingEnvelope ed codec now trust e).service.syncedCapabilities
        = s.syncedCapabilities
      ∧ (s.processIncomingEnvelope ed codec now trust e).service.syncedAvailability
        = s.syncedAvailability :=
  process_of_not_merges fun h => h.2.2 hle

theorem getVersion_le_run (ops : List Op) :
    s.getVersion ≤ (run (perform ed codec) s ops).getVersion := by
  induction ops generalizing s with
  | nil => exact le_rfl
  | cons op ops ih => exact (getVersion_le_perform op).trans ih

/-- **Replay safety.** Once an envelope has authenticated and reached the version comparison, its
delivery after any further operations, under any trust store, changes neither the version map nor
the synchronized facts. -/
theorem redelivery_unchanged (haccepts : Accepts ed codec now trust s e)
    (hnew : e.messageId ∉ s.processedMessageIds) (ops : List Op) :
    let s' := run (perform ed codec) (s.processIncomingEnvelope ed codec now trust e).service ops
    (s'.processIncomingEnvelope ed codec now' trust' e).service.versionMap = s'.versionMap
      ∧ (s'.processIncomingEnvelope ed codec now' trust' e).service.syncedCapabilities
        = s'.syncedCapabilities
      ∧ (s'.processIncomingEnvelope ed codec now' trust' e).service.syncedAvailability
        = s'.syncedAvailability := by
  apply process_of_dominated
  calc e.getVersion ≤ (s.processIncomingEnvelope ed codec now trust e).service.getVersion :=
        getVersion_le_of_compared haccepts hnew
    _ ≤ _ := getVersion_le_run ops

/-- That envelope comes again after the receiver has made an update of its own. -/
theorem redelivery_unchanged_sample :
    let a := (new "a" ⟨[1]⟩ 0).incrementLocalVersion.2
    let e := a.signedEnvelope transparentEd25519 .insertion "sync_response" "m" .epoch
    let b := new "b" ⟨[2]⟩ 0
    let trust := TrustService.trusting ⟨["a"], by decide⟩
    let s' := run (perform transparentEd25519 .unused)
      (b.processIncomingEnvelope transparentEd25519 .unused .epoch trust e).service
      [.incrementLocalVersion]
    (s'.processIncomingEnvelope transparentEd25519 .unused .epoch trust e).service.versionMap
      = s'.versionMap := by
  intro a e b trust
  have haccepts : Accepts transparentEd25519 .unused .epoch trust b e :=
    accepts_signedEnvelope_of_trusting transparentEd25519_lawful (by decide) (by decide) (by decide)
  exact (redelivery_unchanged haccepts List.not_mem_nil [.incrementLocalVersion]).1

end SyncService

end Shyam
