import Shyam.Proof.PinnedKeys

/-!
# Who can inject synchronized state

The trust store of a node changes by decisions of its operator and by bootstrap requests, and
envelopes arrive in between. An envelope that verifies under no pinned key gets in only in the name
of a node that is trusted without a key. Under a pinned key, everything accepted carries that key
until the next grant.
-/

namespace Shyam

open Python Transition

namespace TrustService

variable {codec : RecordCodec} {now : DateTime} {fault : Option SaveFault} {t : TrustService}
  {nodeId key : String}

/-- The node is trusted and no key is pinned. -/
def Keyless (codec : RecordCodec) (now : DateTime) (t : TrustService) (nodeId : String) : Prop :=
  ∃ record, (t.getRecord codec now nodeId).1 = .ok record ∧ record.status = .trusted
    ∧ record.pinnedKey = ""

/-- The file is loaded and the record of the node has the key, whatever its status. -/
structure Holds (t : TrustService) (nodeId key : String) : Prop where
  initialized : t.initialized = true
  record : ∃ record, t.records.get? nodeId = some record ∧ record.pinnedKey = key

theorem holds_of_getRecord {record : TrustRecord}
    (h : (t.getRecord codec now nodeId).1 = .ok record) (htrusted : record.status = .trusted) :
    (t.getRecord codec now nodeId).2.Holds nodeId record.pinnedKey := by
  rw [getRecord] at h ⊢
  cases hloaded : t.ensureInitialized codec with
  | error exc =>
      rw [hloaded] at h
      cases h
  | ok t' =>
      rw [hloaded] at h
      refine ⟨initialized_of_ensureInitialized hloaded, record, ?_, rfl⟩
      cases hfound : t'.records.get? nodeId with
      | none =>
          simp only [Dict.getD, hfound, Option.getD_none, Except.ok.injEq] at h
          rw [← h] at htrusted
          cases htrusted
      | some found =>
          simp only [Dict.getD, hfound, Option.getD_some, Except.ok.injEq] at h
          rw [h]

theorem Holds.getRecord (h : t.Holds nodeId key) (now : DateTime) (other : String) :
    (t.getRecord codec now other).2.Holds nodeId key := by
  rw [getRecord_of_initialized h.initialized]
  exact h

theorem Holds.revokeTrust {other : String} {reason : Option String} (h : t.Holds nodeId key) :
    (t.revokeTrust codec now fault other reason).2.Holds nodeId key := by
  obtain ⟨record, hrecord, hkey⟩ := h.record
  refine ⟨h.initialized, ?_⟩
  rw [TrustService.revokeTrust, putRecord_records, Dict.get?_set]
  split_ifs with hnode
  · subst hnode
    refine ⟨_, rfl, ?_⟩
    rw [hrecord]
    exact hkey
  · exact ⟨record, hrecord, hkey⟩

theorem Holds.pinned {record : TrustRecord} (h : t.Holds nodeId key)
    (hrecord : (t.getRecord codec now nodeId).1 = .ok record) : record.pinnedKey = key := by
  obtain ⟨found, hfound, hkey⟩ := h.record
  rw [getRecord_of_initialized h.initialized, Dict.getD, hfound, Option.getD_some,
    Except.ok.injEq] at hrecord
  rw [← hrecord, hkey]

end TrustService

namespace SyncService

variable {ed : Ed25519} {codec : RecordCodec} {now : DateTime} {trust : TrustService}
  {s : SyncService} {e : SyncEnvelope}

/-- What accepting an envelope says about the sender's record, and that it was read. -/
theorem record_of_accepts (h : Accepts ed codec now trust s e) :
    ∃ record, (trust.getRecord codec now e.senderNodeId).1 = .ok record
      ∧ SyncAuthenticator.Authentic ed record e
      ∧ (s.processIncomingEnvelope ed codec now trust e).trust
        = (trust.getRecord codec now e.senderNodeId).2 := by
  obtain ⟨hsender, verdict, hverdict, hvalid⟩ := h
  obtain ⟨-, record, hrecord, hauth⟩ := SyncAuthenticator.authenticateIncoming_valid hverdict hvalid
  refine ⟨record, hrecord, hauth, ?_⟩
  have hprocessed : (s.processIncomingEnvelope ed codec now trust e).trust
      = (SyncAuthenticator.authenticateIncoming ed codec now trust e).2 := by
    simp [processIncomingEnvelope, hsender, hverdict, hvalid]
  rw [hprocessed]
  unfold SyncAuthenticator.authenticateIncoming at hverdict ⊢
  split_ifs at hverdict ⊢
  · cases hverdict
    exact absurd hvalid Bool.false_ne_true
  · cases hverdict
    exact absurd hvalid Bool.false_ne_true
  · cases hverdict
    exact absurd hvalid Bool.false_ne_true
  · rfl

end SyncService

namespace Receiver

variable (ed : Ed25519) (codec : RecordCodec)

/-- An envelope that verifies under no key that a trusted record pins. -/
def Outside (r : Receiver) : Event → Prop
  | .inbound (.syncEnvelope now e) => ∀ nodeId record,
      (r.trust.getRecord codec now nodeId).1 = .ok record → record.status = .trusted →
      record.pinnedKey ≠ "" → SyncAuthenticator.verifySignature ed record.pinnedKey e ≠ .ok true
  | _ => True

/-- An envelope changes neither versions nor facts. -/
def Inert (r : Receiver) : Event → Prop
  | .inbound (.syncEnvelope now e) =>
      (r.handle ed codec (.inbound (.syncEnvelope now e))).sync.versionMap = r.sync.versionMap
        ∧ (r.handle ed codec (.inbound (.syncEnvelope now e))).sync.syncedCapabilities
          = r.sync.syncedCapabilities
        ∧ (r.handle ed codec (.inbound (.syncEnvelope now e))).sync.syncedAvailability
          = r.sync.syncedAvailability
  | _ => True

/-- The sender of an envelope is not trusted without a key. -/
def Protected (r : Receiver) : Event → Prop
  | .inbound (.syncEnvelope now e) => ¬r.trust.Keyless codec now e.senderNodeId
  | _ => True

/-- Bootstrap requests grant trust as well. -/
def Event.grants : Event → Bool
  | .inbound (.bootstrapRequest _ _ _) | .grantTrust _ _ _ _ _ => true
  | .inbound (.syncEnvelope _ _) | .revokeTrust _ _ _ _ => false

def Accepted (r : Receiver) (now : DateTime) (e : SyncEnvelope) : Prop :=
  SyncService.Accepts ed codec now r.trust r.sync e

/-- Two envelopes that are accepted from a sender with a pinned key carry the same key. -/
def SameKeys (r : Receiver) (events : List Event) : Prop :=
  ∀ before now e between now' e' after,
    events = before ++ .inbound (.syncEnvelope now e)
      :: (between ++ .inbound (.syncEnvelope now' e') :: after) →
    Accepted ed codec (run (handle ed codec) r before) now e →
    Accepted ed codec
      (run (handle ed codec) r (before ++ .inbound (.syncEnvelope now e) :: between)) now' e' →
    e.senderNodeId = e'.senderNodeId →
    Protected codec (run (handle ed codec) r before) (.inbound (.syncEnvelope now e)) →
    e.senderPublicKey = e'.senderPublicKey

variable {ed codec} {r : Receiver} {now : DateTime} {e : SyncEnvelope} {nodeId key : String}

theorem handle_syncEnvelope : r.handle ed codec (.inbound (.syncEnvelope now e))
    = r.receive ed codec (.syncEnvelope now e) := by
  rw [handle]

theorem inert_of_outside {event : Event} (houtside : Outside ed codec r event)
    (hprotected : Protected codec r event) : Inert ed codec r event := by
  cases event with
  | inbound x =>
      cases x with
      | bootstrapRequest => trivial
      | syncEnvelope now e =>
          rw [Inert, handle_syncEnvelope, receive_syncEnvelope]
          apply SyncService.process_of_not_merges
          rintro ⟨haccepts, -⟩
          obtain ⟨record, hrecord, hauth, -⟩ := SyncService.record_of_accepts haccepts
          have hpinned : record.pinnedKey ≠ "" :=
            fun hempty => hprotected ⟨record, hrecord, hauth.trusted, hempty⟩
          apply houtside e.senderNodeId record hrecord hauth.trusted hpinned
          rw [hauth.pinned.resolve_left hpinned]
          exact hauth.verified
  | grantTrust | revokeTrust => trivial

theorem holds_handle {event : Event} (hgrants : event.grants = false)
    (h : r.trust.Holds nodeId key) : (r.handle ed codec event).trust.Holds nodeId key := by
  cases event with
  | inbound x =>
      cases x with
      | bootstrapRequest => cases hgrants
      | syncEnvelope now e =>
          rw [handle_syncEnvelope]
          rcases receive_syncEnvelope_trust ed codec r now e with htrust | htrust
          · exact htrust ▸ h
          · exact htrust ▸ h.getRecord now e.senderNodeId
  | grantTrust => cases hgrants
  | revokeTrust now fault other reason => exact h.revokeTrust

theorem holds_run {events : List Event} (hgrants : ∀ event ∈ events, event.grants = false)
    (h : r.trust.Holds nodeId key) : (run (handle ed codec) r events).trust.Holds nodeId key := by
  have halong : Along (handle ed codec) (fun _ event => event.grants = false) r events :=
    along_of_forall_mem hgrants
  exact halong.invariant (I := fun r => r.trust.Holds nodeId key)
    (fun _ _ h hevent => holds_handle hevent h) h

/-- The key of an accepted envelope is the one that is pinned from then on. -/
theorem holds_of_accepted (h : Accepted ed codec r now e)
    (hprotected : Protected codec r (.inbound (.syncEnvelope now e))) :
    (r.handle ed codec (.inbound (.syncEnvelope now e))).trust.Holds
      e.senderNodeId e.senderPublicKey ∧ e.senderPublicKey ≠ "" := by
  obtain ⟨record, hrecord, hauth, htrust⟩ := SyncService.record_of_accepts h
  have hpinned : record.pinnedKey ≠ "" :=
    fun hempty => hprotected ⟨record, hrecord, hauth.trusted, hempty⟩
  have hkey := hauth.pinned.resolve_left hpinned
  refine ⟨?_, hauth.key_ne⟩
  rw [handle_syncEnvelope, receive]
  change (r.sync.processIncomingEnvelope ed codec now r.trust e).trust.Holds _ _
  rw [htrust, ← hkey]
  exact TrustService.holds_of_getRecord hrecord hauth.trusted

theorem sameKeys_of_no_grants {events : List Event}
    (hgrants : ∀ event ∈ events, event.grants = false) : SameKeys ed codec r events := by
  rintro before now e between now' e' after rfl haccepted haccepted' hsender hprotected
  obtain ⟨hholds, hkey⟩ := holds_of_accepted haccepted hprotected
  have hbetween : ∀ event ∈ between, event.grants = false := fun event hevent =>
    hgrants event (List.mem_append_right _ (List.mem_cons_of_mem _ (List.mem_append_left _ hevent)))
  have hlater : (run (handle ed codec) _ between).trust.Holds e.senderNodeId e.senderPublicKey :=
    holds_run hbetween hholds
  rw [run_append, run_cons] at haccepted'
  obtain ⟨record, hrecord, hauth, -⟩ := SyncService.record_of_accepts haccepted'
  rw [← hsender] at hrecord
  have hpinned := hlater.pinned hrecord
  rw [← hpinned]
  exact hauth.pinned.resolve_left (hpinned ▸ hkey)

/-- **Injection.** Whatever was granted and revoked before and between, an envelope that verifies
under no pinned key changes nothing unless its sender is trusted without a key. Without a grant in
between, all that is accepted from a sender with a pinned key carries one key. -/
theorem injection_needs_pinned_key {start start' : Receiver} {events events' : List Event}
    (houtside : Along (handle ed codec) (Outside ed codec) start events)
    (hgrants : ∀ event ∈ events', event.grants = false) :
    Along (handle ed codec) (fun r event => Protected codec r event → Inert ed codec r event) start
        events
      ∧ SameKeys ed codec start' events' := by
  refine ⟨?_, sameKeys_of_no_grants hgrants⟩
  exact houtside.mono (I := fun _ => True) (fun _ _ _ h => ⟨trivial, inert_of_outside h⟩) trivial

/-! ### A grant without a key -/

theorem outside_authority :
    Outside transparentEd25519 ScalarCodec.iso.recordCodec authority
      (.inbound (.syncEnvelope .epoch impostorEnvelope)) := by
  intro nodeId record hrecord htrusted hpinned
  have hinit : authority.trust.initialized = true := rfl
  have hrecords : authority.trust.records.get? nodeId = if nodeId = "n" then
      some (TrustService.grantedRecord none .epoch "n"
        (some (pinnedPair.publicKeyB64 transparentEd25519)) {}) else none := by
    rw [authority, TrustService.grantTrust_records]
    rfl
  rw [TrustService.getRecord_of_initialized hinit, Dict.getD, hrecords] at hrecord
  split_ifs at hrecord
  · rw [Option.getD_some, Except.ok.injEq] at hrecord
    rw [← hrecord]
    exact unforged_impostorEnvelope
  · cases hrecord
    cases htrusted

theorem injection_needs_pinned_key_authority :
    Along (handle transparentEd25519 ScalarCodec.iso.recordCodec)
    (fun r event => Protected ScalarCodec.iso.recordCodec r event →
      Inert transparentEd25519 ScalarCodec.iso.recordCodec r event) authority
    [.inbound (.syncEnvelope .epoch impostorEnvelope)] := by
  have hgrants : ∀ event ∈ [Event.inbound (.syncEnvelope .epoch impostorEnvelope)],
      event.grants = false := by
    simp [Event.grants]
  have houtside : Along (handle transparentEd25519 ScalarCodec.iso.recordCodec)
      (Outside transparentEd25519 ScalarCodec.iso.recordCodec) authority
      [.inbound (.syncEnvelope .epoch impostorEnvelope)] := ⟨outside_authority, trivial⟩
  have hinjection : _ ∧ SameKeys _ _ authority _ := injection_needs_pinned_key houtside hgrants
  exact hinjection.1

/-- An authority without any trust. -/
def stranger : Receiver := ⟨some "b", unpinned, .new "b" ⟨[2]⟩ 1000⟩

/-- The operator grants trust without a key, and then the impostor sends an
envelope in that name. -/
def keylessGrant : List Event :=
  [.grantTrust .epoch none "n" none {}, .inbound (.syncEnvelope .epoch impostorEnvelope)]

def welcoming : Receiver :=
  stranger.handle transparentEd25519 .unused (.grantTrust .epoch none "n" none {})

theorem getRecord_welcoming (nodeId : String) :
    (welcoming.trust.getRecord .unused .epoch nodeId).1
      = .ok (if nodeId = "n" then TrustService.grantedRecord none .epoch "n" none {}
        else .new nodeId .unknown .epoch) := by
  have hinit : welcoming.trust.initialized = true := rfl
  have hrecords : welcoming.trust.records.get? nodeId
      = if nodeId = "n" then some (TrustService.grantedRecord none .epoch "n" none {})
        else none := by
    rw [welcoming, handle, TrustService.grantTrust_records]
    rfl
  rw [TrustService.getRecord_of_initialized hinit, Dict.getD, hrecords]
  split_ifs <;> rfl

theorem merges_welcoming : SyncService.Merges transparentEd25519 .unused .epoch welcoming.trust
    welcoming.sync impostorEnvelope := by
  have hrecord : (welcoming.trust.getRecord .unused .epoch "n").1
      = .ok (TrustService.grantedRecord none .epoch "n" none {}) := getRecord_welcoming "n"
  exact ⟨SyncService.accepts_signedEnvelope transparentEd25519_lawful (by decide) (by decide)
    hrecord rfl (Or.inl rfl), List.not_mem_nil, fun hle => absurd (hle "n") (by decide)⟩

/-- No key is pinned, and the envelope of a party that made up its own key changes the state. -/
theorem keyless_grant_admits_impostor :
    Along (handle transparentEd25519 .unused) (Outside transparentEd25519 .unused)
      stranger keylessGrant
      ∧ ¬Along (handle transparentEd25519 .unused) (Inert transparentEd25519 .unused) stranger
        keylessGrant := by
  constructor
  · refine ⟨trivial, ?_, trivial⟩
    change Outside transparentEd25519 .unused welcoming _
    intro nodeId record hrecord htrusted hpinned
    rw [getRecord_welcoming, Except.ok.injEq] at hrecord
    split_ifs at hrecord
    · rw [← hrecord] at hpinned
      exact absurd rfl hpinned
    · rw [← hrecord] at htrusted
      cases htrusted
  · rintro ⟨-, hinert, -⟩
    change Inert transparentEd25519 .unused welcoming _ at hinert
    have hversions := hinert.1
    rw [handle_syncEnvelope, receive_syncEnvelope] at hversions
    have hkeep : (welcoming.sync.processIncomingEnvelope transparentEd25519 .unused .epoch
        welcoming.trust impostorEnvelope).service.getVersion = welcoming.sync.getVersion := by
      rw [SyncService.getVersion, SyncService.getVersion, hversions]
    rw [SyncService.getVersion_of_merges merges_welcoming] at hkeep
    exact absurd (congrFun hkeep "n") (by decide)

end Receiver

end Shyam
