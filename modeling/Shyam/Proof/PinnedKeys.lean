import Shyam.Bootstrap.Receiver
import Shyam.Lib.Run

/-!
# Pinned keys and untrusted input

A bootstrap request is verified under the key it carries itself, and granting trust replaces the
pinned key by that key. So the key a trusted node is pinned with, after any inbound sequence, is the
one of the last correctly self-signed request that names the node, and whoever sends such a request
can sign envelopes in the node's name from then on.
-/

namespace Shyam

open Python Transition

namespace TrustService

variable {codec : RecordCodec} {now : DateTime} {fault : Option SaveFault} {t : TrustService}
  {nodeId other key : String} {args : GrantArgs}

/-- A grant to a node that is pinned already pins the key it names, or keeps the old
one if it names none. -/
theorem Pins.grantTrust_self {key' : String} (hinit : t.initialized = true)
    (h : t.Pins codec nodeId key) :
    (t.grantTrust codec now fault nodeId (some key') args).2.Pins codec nodeId
      (if key' = "" then key else key') := by
  obtain ⟨t', ht', record, hrecord, -, hkey⟩ := h
  rw [ensureInitialized_of_initialized hinit, Except.ok.injEq] at ht'
  subst ht'
  refine pins_of_initialized hinit (grantTrust_records.trans (if_pos rfl)) grantedRecord_status ?_
  rw [hrecord]
  split_ifs with hempty
  · rw [hempty, grantedRecord, TrustRecord.withStatus, orElse_empty, hkey, Option.some_or]
  · exact grantedRecord_publicKey hempty

theorem Pins.grantTrust_of_ne {publicKey : Option String} (hinit : t.initialized = true)
    (hne : nodeId ≠ other) (h : t.Pins codec nodeId key) :
    (t.grantTrust codec now fault other publicKey args).2.Pins codec nodeId key := by
  obtain ⟨t', ht', record, hrecord, hstatus, hkey⟩ := h
  rw [ensureInitialized_of_initialized hinit, Except.ok.injEq] at ht'
  subst ht'
  have hkept : (t.grantTrust codec now fault other publicKey args).2.records.get? nodeId
      = some record := by
    rw [grantTrust_records, if_neg hne, hrecord]
  exact pins_of_initialized hinit hkept hstatus hkey

end TrustService

namespace Receiver

variable {ed : Ed25519} {codec : RecordCodec} {r : Receiver} {nodeId key : String} {x : Inbound}

/-- A request that names the node and is correctly signed under the key that it carries itself. -/
def Rebinds (ed : Ed25519) (nodeId : String) : Inbound → Prop
  | .bootstrapRequest _ _ request => request.nodeId = nodeId ∧ request.publicKey ≠ ""
      ∧ request.verifiedBy ed request.publicKey = .ok true
  | .syncEnvelope _ _ => False

def Unforged (ed : Ed25519) (key : String) : Inbound → Prop
  | .bootstrapRequest _ _ request => request.verifiedBy ed key ≠ .ok true
  | .syncEnvelope _ e => SyncAuthenticator.verifySignature ed key e ≠ .ok true

def Undisturbed (ed : Ed25519) (codec : RecordCodec) (nodeId : String) (r : Receiver) :
    Inbound → Prop
  | .bootstrapRequest _ _ _ => True
  | .syncEnvelope now e => e.senderNodeId = nodeId →
      (r.receive ed codec (.syncEnvelope now e)).sync.versionMap = r.sync.versionMap
        ∧ (r.receive ed codec (.syncEnvelope now e)).sync.syncedCapabilities
          = r.sync.syncedCapabilities
        ∧ (r.receive ed codec (.syncEnvelope now e)).sync.syncedAvailability
          = r.sync.syncedAvailability

open Classical in
/-- The key that is pinned after a message, when `key` was before. -/
noncomputable def repinned (ed : Ed25519) (nodeId key : String) : Inbound → String
  | .bootstrapRequest now fault request =>
      if Rebinds ed nodeId (.bootstrapRequest now fault request) then request.publicKey else key
  | .syncEnvelope _ _ => key

theorem repinned_of_not_rebinds (h : ¬Rebinds ed nodeId x) : repinned ed nodeId key x = key := by
  cases x with
  | bootstrapRequest now fault request => exact if_neg h
  | syncEnvelope now e => rfl

variable (ed) in
theorem pins_receive (h : r.trust.Pins codec nodeId key) (x : Inbound) :
    (r.receive ed codec x).trust.Pins codec nodeId (repinned ed nodeId key x) := by
  cases x with
  | bootstrapRequest now fault request =>
      obtain ⟨t', ht', hinit, hpins⟩ := h.getRecord now request.nodeId
      have hlookup : (r.trust.getRecord codec now request.nodeId).2 = t' := by rw [ht']
      rw [receive]
      rcases BootstrapService.handleIncomingRequest_cases ed codec r.bootstrap now fault r.trust
        request with ⟨hverified, htrust⟩ | ⟨hverified, hrevoked, htrust⟩
        | ⟨hverified, -, -, -, htrust⟩
      · have hkeep : ¬Rebinds ed nodeId (.bootstrapRequest now fault request) :=
          fun hrebinds => hverified hrebinds.2.2
        rw [repinned_of_not_rebinds hkeep, htrust]
        exact h
      · rw [repinned_of_not_rebinds, htrust, hlookup]
        · exact hpins
        · rintro ⟨rfl, -⟩
          obtain ⟨record, hrecord, htrusted, -⟩ := h.record now
          simp [hrevoked record hrecord] at htrusted
      · rw [htrust, hlookup]
        by_cases hnode : request.nodeId = nodeId
        · subst hnode
          have hkey : repinned ed request.nodeId key (.bootstrapRequest now fault request)
              = if request.publicKey = "" then key else request.publicKey := by
            by_cases hempty : request.publicKey = "" <;>
              simp [repinned, Rebinds, hverified, hempty]
          rw [hkey]
          exact hpins.grantTrust_self hinit
        · have hkeep : ¬Rebinds ed nodeId (.bootstrapRequest now fault request) :=
            fun hrebinds => hnode hrebinds.1
          rw [repinned_of_not_rebinds hkeep]
          exact hpins.grantTrust_of_ne hinit (Ne.symm hnode)
  | syncEnvelope now e =>
      rcases receive_syncEnvelope_trust ed codec r now e with htrust | htrust
      · exact htrust ▸ h
      · obtain ⟨t', ht', -, hpins⟩ := h.getRecord now e.senderNodeId
        rw [htrust, ht']
        exact hpins

variable (ed) in
/-- **The pinned key after a run** is that of the last request that rebinds it. -/
theorem pins_run (h : r.trust.Pins codec nodeId key) (inbound : List Inbound) :
    (run (receive ed codec) r inbound).trust.Pins codec nodeId
      (inbound.foldl (repinned ed nodeId) key) := by
  induction inbound generalizing r key with
  | nil => exact h
  | cons x inbound ih =>
      rw [run_cons]
      exact ih (pins_receive ed h x)

/-- An envelope in the name of a pinned node that does not verify under its key changes nothing. -/
theorem undisturbed_of_unforged (h : r.trust.Pins codec nodeId key) (hkey : key ≠ "")
    (hunforged : Unforged ed key x) : Undisturbed ed codec nodeId r x := by
  cases x with
  | bootstrapRequest now fault request => trivial
  | syncEnvelope now e =>
      intro hsender
      rw [receive_syncEnvelope]
      apply SyncService.process_of_not_merges
      rintro ⟨⟨-, verdict, hverdict, hvalid⟩, -⟩
      obtain ⟨-, record, hrecord, hauth⟩ :=
        SyncAuthenticator.authenticateIncoming_valid hverdict hvalid
      obtain ⟨pinned, hpinned, -, hpinnedKey⟩ := h.record now
      rw [hsender, hpinned, Except.ok.injEq] at hrecord
      subst hrecord
      have hpin : pinned.pinnedKey = key := by
        rw [TrustRecord.pinnedKey, hpinnedKey, Option.getD_some]
      have hsame : key = e.senderPublicKey := hpin ▸ hauth.pinned.resolve_left (hpin ▸ hkey)
      exact hunforged (hsame ▸ hauth.verified)

/-- If nothing verifies under the key, it is the last key pinned only if no request rebinds it. -/
theorem foldl_repinned_eq_iff {inbound : List Inbound}
    (hunforged : ∀ x ∈ inbound, Unforged ed key x) :
    inbound.foldl (repinned ed nodeId) key = key ↔ ∀ x ∈ inbound, ¬Rebinds ed nodeId x := by
  induction inbound using List.reverseRecOn with
  | nil => simp
  | append_singleton inbound x ih =>
      have ih := ih fun x' hx' => hunforged x' (List.mem_append_left _ hx')
      have hlast : Unforged ed key x := hunforged x (List.mem_append_right _ List.mem_cons_self)
      rw [List.foldl_append, List.foldl_cons, List.foldl_nil]
      by_cases hrebinds : Rebinds ed nodeId x
      · refine ⟨fun heq => ?_, fun hnone => absurd hrebinds (hnone x (by simp))⟩
        cases x with
        | bootstrapRequest now fault request =>
            rw [repinned, if_pos hrebinds] at heq
            exact absurd (heq ▸ hrebinds.2.2) hlast
        | syncEnvelope now e => exact hrebinds.elim
      · rw [repinned_of_not_rebinds hrebinds, ih]
        constructor
        · intro hnone x' hx'
          rcases List.mem_append.mp hx' with hx' | hx'
          · exact hnone x' hx'
          · rwa [List.mem_singleton.mp hx']
        · exact fun hnone x' hx' => hnone x' (List.mem_append_left _ hx')

/-- As long as no request rebinds the node, no envelope in its name changes anything. -/
theorem along_undisturbed {inbound : List Inbound} (h : r.trust.Pins codec nodeId key)
    (hkey : key ≠ "") (hunforged : ∀ x ∈ inbound, Unforged ed key x)
    (hnone : ∀ x ∈ inbound, ¬Rebinds ed nodeId x) :
    Along (receive ed codec) (Undisturbed ed codec nodeId) r inbound := by
  induction inbound generalizing r with
  | nil => trivial
  | cons x inbound ih =>
      rw [List.forall_mem_cons] at hunforged hnone
      have hnext := pins_receive ed h x
      rw [repinned_of_not_rebinds hnone.1] at hnext
      exact ⟨undisturbed_of_unforged h hkey hunforged.1, ih hnext hunforged.2 hnone.2⟩

/-- **Pinned keys.** After trust was granted with a key, and an inbound sequence in which nothing
verifies under that key, the record still pins it and no envelope in the node's name has changed the
synchronized state, if and only if no request of the sequence names the node and is correctly signed
under the key that the request itself carries. -/
theorem pinned_key_survives_iff {trust : TrustService} {sync : SyncService}
    {identity : Option String} {now : DateTime} {fault : Option SaveFault}
    {args : TrustService.GrantArgs} {granted : TrustRecord} {inbound : List Inbound}
    (hcodec : codec.Restores TrustService.KeepsStanding) (hkey : key ≠ "")
    (hgrant : (trust.grantTrust codec now fault nodeId (some key) args).1 = .ok granted)
    (hunforged : ∀ x ∈ inbound, Unforged ed key x) :
    let start : Receiver :=
      ⟨identity, (trust.grantTrust codec now fault nodeId (some key) args).2, sync⟩
    ((∀ later, ∃ record,
          ((run (receive ed codec) start inbound).trust.getRecord codec later nodeId).1 = .ok record
            ∧ record.publicKey = some key)
        ∧ Along (receive ed codec) (Undisturbed ed codec nodeId) start inbound)
      ↔ ∀ x ∈ inbound, ¬Rebinds ed nodeId x := by
  intro start
  have hstart : start.trust.Pins codec nodeId key := TrustService.pins_grantTrust hcodec hkey hgrant
  have hend := pins_run ed hstart inbound
  rw [← foldl_repinned_eq_iff hunforged]
  constructor
  · rintro ⟨hpinned, -⟩
    obtain ⟨record, hrecord, hrecordKey⟩ := hpinned now
    obtain ⟨record', hrecord', -, hlastKey⟩ := hend.record now
    rw [hrecord, Except.ok.injEq] at hrecord'
    rw [← hrecord', hrecordKey, Option.some.injEq] at hlastKey
    exact hlastKey.symm
  · intro hsame
    refine ⟨fun later => ?_, ?_⟩
    · obtain ⟨record, hrecord, -, hrecordKey⟩ := hend.record later
      exact ⟨record, hrecord, hsame ▸ hrecordKey⟩
    · exact along_undisturbed hstart hkey hunforged ((foldl_repinned_eq_iff hunforged).mp hsame)

/-! ### The two steps of an impostor -/

def pinnedPair : KeyPair := ⟨[1]⟩

def impostorPair : KeyPair := ⟨[9]⟩

/-- An authority with a loaded trust store, before any grant. -/
def unpinned : TrustService := ⟨⟨"trust_store.json", .absent⟩, ∅, true⟩

/-- The authority, after its operator granted trust to `n`. -/
noncomputable def authority : Receiver where
  identity := some "b"
  trust := (unpinned.grantTrust ScalarCodec.iso.recordCodec .epoch none "n"
    (some (pinnedPair.publicKeyB64 transparentEd25519)) {}).2
  sync := .new "b" ⟨[2]⟩ 1000

def requestBy (nodeId : String) (keypair : KeyPair) : BootstrapRequest :=
  { requestId := "r", nodeId := nodeId, publicKey := "", nodeName := "", timestamp := .epoch
    signature := "" : BootstrapRequest }.sign transparentEd25519 keypair

/-- `n` as the impostor runs it. -/
def impostor : SyncService := (SyncService.new "n" impostorPair 1000).incrementLocalVersion.2

def impostorEnvelope : SyncEnvelope :=
  impostor.signedEnvelope transparentEd25519 .insertion "sync_response" "m" .epoch

def impersonation : List Inbound :=
  [.bootstrapRequest .epoch none (requestBy "n" impostorPair),
    .syncEnvelope .epoch impostorEnvelope]

theorem granted_authority : (unpinned.grantTrust ScalarCodec.iso.recordCodec .epoch none "n"
    (some (pinnedPair.publicKeyB64 transparentEd25519)) {}).1
      = .ok (TrustService.grantedRecord none .epoch "n"
          (some (pinnedPair.publicKeyB64 transparentEd25519)) {}) := by
  rfl

theorem pinnedKey_ne_empty (keypair : KeyPair) : keypair.publicKeyB64 transparentEd25519 ≠ "" :=
  KeyPair.publicKeyB64_ne_empty transparentEd25519_lawful keypair

theorem unforged_requestBy (nodeId : String) {keypair : KeyPair} (hne : pinnedPair ≠ keypair) :
    Unforged transparentEd25519 (pinnedPair.publicKeyB64 transparentEd25519)
      (.bootstrapRequest .epoch none (requestBy nodeId keypair)) := by
  rw [Unforged, requestBy, BootstrapRequest.verifiedBy_sign,
    verifyWithPublicKey_transparent_of_ne hne]
  simp

theorem rebinds_requestBy (nodeId : String) (keypair : KeyPair) : Rebinds transparentEd25519 nodeId
    (.bootstrapRequest .epoch none (requestBy nodeId keypair)) := by
  exact ⟨rfl, pinnedKey_ne_empty keypair,
    BootstrapRequest.verifiedBy_sign_self transparentEd25519_lawful keypair _⟩

theorem unforged_impostorEnvelope : Unforged transparentEd25519
    (pinnedPair.publicKeyB64 transparentEd25519) (.syncEnvelope .epoch impostorEnvelope) := by
  obtain ⟨bytes, hverify⟩ := SyncService.exists_verifySignature_signedEnvelope transparentEd25519
    impostor .insertion "sync_response" "m" .epoch
  have hne : pinnedPair ≠ impostor.keypair := by
    simp [pinnedPair, impostor, impostorPair, SyncService.new, SyncService.incrementLocalVersion]
  rw [Unforged, impostorEnvelope, hverify, verifyWithPublicKey_transparent_of_ne hne]
  simp

theorem pins_authority : authority.trust.Pins ScalarCodec.iso.recordCodec "n"
    (pinnedPair.publicKeyB64 transparentEd25519) :=
  TrustService.pins_grantTrust (TrustService.keepsStanding ScalarCodec.iso_lawful)
    (pinnedKey_ne_empty _) granted_authority

/-- The authority, after the impostor's request. -/
noncomputable def misled : Receiver :=
  authority.receive transparentEd25519 ScalarCodec.iso.recordCodec
    (.bootstrapRequest .epoch none (requestBy "n" impostorPair))

theorem pins_misled : misled.trust.Pins ScalarCodec.iso.recordCodec "n"
    (impostorPair.publicKeyB64 transparentEd25519) := by
  have hpins := pins_receive transparentEd25519 pins_authority
    (.bootstrapRequest .epoch none (requestBy "n" impostorPair))
  rwa [repinned, if_pos (rebinds_requestBy "n" impostorPair)] at hpins

theorem sync_misled : misled.sync = .new "b" ⟨[2]⟩ 1000 := by
  rw [misled, receive, authority]

theorem merges_impostorEnvelope : SyncService.Merges transparentEd25519
    ScalarCodec.iso.recordCodec .epoch misled.trust misled.sync impostorEnvelope := by
  obtain ⟨record, hrecord, htrusted, hkey⟩ := pins_misled.record .epoch
  rw [sync_misled]
  refine ⟨SyncService.accepts_signedEnvelope transparentEd25519_lawful (by decide) (by decide)
    hrecord htrusted (Or.inr ?_), List.not_mem_nil, fun hle => absurd (hle "n") (by decide)⟩
  rw [TrustRecord.pinnedKey, hkey, Option.getD_some]
  rfl

/-- Nothing that the impostor sends verifies under the pinned key, and yet the record ends up with
the impostor's key, and an envelope in the node's name changes the state. -/
theorem pinned_key_survives_impersonation :
    (unpinned.grantTrust ScalarCodec.iso.recordCodec .epoch none "n"
        (some (pinnedPair.publicKeyB64 transparentEd25519)) {}).1
      = .ok (TrustService.grantedRecord none .epoch "n"
          (some (pinnedPair.publicKeyB64 transparentEd25519)) {})
    ∧ (∀ x ∈ impersonation,
        Unforged transparentEd25519 (pinnedPair.publicKeyB64 transparentEd25519) x)
    ∧ (∃ record, ((run (receive transparentEd25519 ScalarCodec.iso.recordCodec) authority
          impersonation).trust.getRecord ScalarCodec.iso.recordCodec .epoch "n").1 = .ok record
        ∧ record.publicKey ≠ some (pinnedPair.publicKeyB64 transparentEd25519))
    ∧ ¬Along (receive transparentEd25519 ScalarCodec.iso.recordCodec)
        (Undisturbed transparentEd25519 ScalarCodec.iso.recordCodec "n")
          authority impersonation := by
  refine ⟨granted_authority, ?_, ?_, ?_⟩
  · rw [impersonation, List.forall_mem_cons, List.forall_mem_singleton]
    exact ⟨unforged_requestBy "n" (by decide), unforged_impostorEnvelope⟩
  · have hpins := pins_receive transparentEd25519 pins_misled
      (.syncEnvelope .epoch impostorEnvelope)
    obtain ⟨record, hrecord, -, hkey⟩ := hpins.record .epoch
    refine ⟨record, hrecord, ?_⟩
    rw [hkey, repinned, ne_eq, Option.some.injEq]
    exact fun heq => absurd (publicKeyB64_transparent_injective heq) (by decide)
  · rintro ⟨-, hundisturbed, -⟩
    rw [← misled] at hundisturbed
    have hversions := (hundisturbed rfl).1
    rw [receive_syncEnvelope] at hversions
    have hkeep : (misled.sync.processIncomingEnvelope transparentEd25519
        ScalarCodec.iso.recordCodec .epoch misled.trust impostorEnvelope).service.getVersion
          = misled.sync.getVersion := by
      rw [SyncService.getVersion, SyncService.getVersion, hversions]
    rw [SyncService.getVersion_of_merges merges_impostorEnvelope, sync_misled] at hkeep
    exact absurd (congrFun hkeep "n") (by decide)

def enrolment : List Inbound := [.bootstrapRequest .epoch none (requestBy "m" ⟨[5]⟩)]

theorem pinned_key_survives_iff_enrolment :
    ∃ record, ((run (receive transparentEd25519 ScalarCodec.iso.recordCodec) authority
        enrolment).trust.getRecord ScalarCodec.iso.recordCodec .epoch "n").1 = .ok record
      ∧ record.publicKey = some (pinnedPair.publicKeyB64 transparentEd25519) := by
  have hunforged : ∀ x ∈ enrolment, Unforged transparentEd25519
      (pinnedPair.publicKeyB64 transparentEd25519) x := by
    rw [enrolment, List.forall_mem_singleton]
    exact unforged_requestBy "m" (by decide)
  have hnone : ∀ x ∈ enrolment, ¬Rebinds transparentEd25519 "n" x := by
    rw [enrolment, List.forall_mem_singleton]
    rintro ⟨hnode, -⟩
    exact absurd hnode (by decide)
  exact ((pinned_key_survives_iff (TrustService.keepsStanding ScalarCodec.iso_lawful)
    (pinnedKey_ne_empty pinnedPair) granted_authority hunforged).mpr hnone).1 .epoch

end Receiver

end Shyam
