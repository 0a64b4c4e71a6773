import Shyam.Proof.BootstrapSync
import Shyam.Proof.TrustAtomicity

/-!
# What a joining device is made to trust

The device grants trust to whoever the accepted response names. The grant looks neither at the
status nor at the key of the record that it updates, and on a service that has not loaded its file
it replaces the file.
-/

namespace Shyam

open Python

namespace TrustRecord

/-- A revoked record has not become trusted, and a pinned key has not been replaced by another. -/
def Upheld (record record' : TrustRecord) : Prop :=
  (record.status = .revoked → record'.status ≠ .trusted)
    ∧ ∀ pinned, record.publicKey = some pinned → pinned ≠ "" →
      ∀ key, record'.publicKey = some key → key = pinned

theorem Upheld.refl (record : TrustRecord) : record.Upheld record := by
  refine ⟨fun hrevoked htrusted => ?_, fun pinned hpinned _ key hkey => ?_⟩
  · rw [hrevoked] at htrusted
    cases htrusted
  · exact Option.some.inj (hkey.symm.trans hpinned)

theorem upheld_congr {record record' record'' : TrustRecord}
    (h : TrustService.KeepsStanding record' record'') :
    record.Upheld record'' ↔ record.Upheld record' := by
  rw [Upheld, Upheld, h.1, h.2]

end TrustRecord

namespace TrustService

/-- The record that a read finds for the node. -/
def found (codec : RecordCodec) (t : TrustService) (nodeId : String) : Option TrustRecord :=
  (t.ensureInitialized codec).toOption.bind fun t' => t'.records.get? nodeId

/-- The records that reads find are upheld. -/
def Respects (codec : RecordCodec) (before after : TrustService) : Prop :=
  ∀ nodeId record record', before.found codec nodeId = some record →
    after.found codec nodeId = some record' →
    record.Upheld record'

theorem Respects.refl {codec : RecordCodec} (t : TrustService) : Respects codec t t := by
  intro nodeId record record' hrecord hrecord'
  exact Option.some.inj (hrecord.symm.trans hrecord') ▸ .refl record

/-- What the policy asks of a grant with a key. Once the file is loaded, what is
held is what reads find. -/
structure MayGrant (codec : RecordCodec) (t : TrustService) (nodeId key : String) : Prop where
  named : ∀ record, t.found codec nodeId = some record → record.status ≠ .revoked
    ∧ ∀ pinned, record.publicKey = some pinned → pinned ≠ "" →
        key = pinned ∨ key = "" ∧ ∃ held, t.records.get? nodeId = some held
          ∧ ∀ key', held.publicKey = some key' → key' = pinned
  others : ∀ other record held, other ≠ nodeId → t.found codec other = some record →
    t.records.get? other = some held → record.Upheld held

/-- The file is not loaded yet and cannot be written, so that the next read finds it as it was. -/
def Unsaved (scalars : ScalarCodec) (fault : Option SaveFault) (t : TrustService) : Prop :=
  ¬t.initialized = true
    ∧ ¬(fault = none ∧ ∀ nodeId record, t.records.get? nodeId = some record →
      record.Serialisable scalars)

variable {codec : RecordCodec} {scalars : ScalarCodec} {now : DateTime} {fault : Option SaveFault}
  {t : TrustService} {nodeId other key : String} {args : GrantArgs}

theorem found_of_initialized (h : t.initialized = true) :
    t.found codec other = t.records.get? other := by
  rw [found, ensureInitialized_of_initialized h]
  rfl

/-- Of a loaded service the policy only asks that the node is not revoked, and its key the pinned
one or none. -/
theorem mayGrant_iff_of_initialized (h : t.initialized = true) : t.MayGrant codec nodeId key
    ↔ ∀ record, t.records.get? nodeId = some record → record.status ≠ .revoked
      ∧ ∀ pinned, record.publicKey = some pinned → pinned ≠ "" → key = pinned ∨ key = "" := by
  constructor
  · intro hmay record hrecord
    obtain ⟨hstatus, hpinned⟩ := hmay.named record ((found_of_initialized h).trans hrecord)
    exact ⟨hstatus, fun pinned hkey hne => (hpinned pinned hkey hne).imp_right And.left⟩
  · intro hasked
    refine ⟨fun record hrecord => ?_, fun other record held _ hrecord hheld => ?_⟩
    · rw [found_of_initialized h] at hrecord
      obtain ⟨hstatus, hpinned⟩ := hasked record hrecord
      refine ⟨hstatus, fun pinned hkey hne => (hpinned pinned hkey hne).imp_right fun hempty => ?_⟩
      exact ⟨hempty, record, hrecord, fun key' hkey' => Option.some.inj (hkey'.symm.trans hkey)⟩
    · rw [found_of_initialized h, hheld] at hrecord
      exact Option.some.inj hrecord ▸ .refl held

/-- A grant that fails on a service that is not loaded changes nothing that reads find. -/
theorem found_of_failed {exc : Exc} (hinit : ¬t.initialized = true)
    (h : (t.grantTrust codec now fault nodeId (some key) args).1 = .error exc) :
    (t.grantTrust codec now fault nodeId (some key) args).2.found codec other
      = t.found codec other := by
  rw [found, found, grantTrust, ensureInitialized_putRecord_of_error hinit h]

/-- After any other grant, reads find what is held then. -/
theorem rel_found_of_saved (hcodec : codec.Restores KeepsStanding) (other : String)
    (h : t.initialized = true
      ∨ ∃ written, (t.grantTrust codec now fault nodeId (some key) args).1 = .ok written) :
    Option.Rel KeepsStanding
      ((t.grantTrust codec now fault nodeId (some key) args).2.records.get? other)
      ((t.grantTrust codec now fault nodeId (some key) args).2.found codec other) := by
  by_cases hinit : t.initialized = true
  · rw [found_of_initialized (grantTrust_initialized.trans hinit)]
    cases (t.grantTrust codec now fault nodeId (some key) args).2.records.get? other with
    | none => exact .none
    | some record => exact .some ⟨rfl, rfl⟩
  · obtain ⟨written, hwritten⟩ := h.resolve_left hinit
    obtain ⟨t', ht', hrel⟩ := ensureInitialized_putRecord_of_ok hcodec hinit hwritten
    rw [found, grantTrust, ht']
    exact hrel other

/-- The key of the record that is granted: an empty one counts only for a new record. -/
theorem grantedRecord_key_iff {existing : Option TrustRecord} {pinned : String}
    (hpinned : pinned ≠ "") :
    (∀ key', (grantedRecord existing now nodeId (some key) args).publicKey = some key' →
      key' = pinned) ↔ key = pinned ∨ key = "" ∧ ∃ held, existing = some held
          ∧ ∀ key', held.publicKey = some key' → key' = pinned := by
  by_cases hempty : key = ""
  · subst hempty
    rw [or_iff_right hpinned.symm, and_iff_right rfl]
    cases existing with
    | none =>
        refine iff_of_false (fun h => hpinned (h "" rfl).symm) ?_
        rintro ⟨held, hheld, -⟩
        cases hheld
    | some held =>
        have hkept : (grantedRecord (some held) now nodeId (some "") args).publicKey
            = held.publicKey := by
          rw [grantedRecord, TrustRecord.withStatus, orElse_empty, Option.or_self]
        rw [hkept]
        constructor
        · exact fun h => ⟨held, rfl, h⟩
        · rintro ⟨_, ⟨⟩, h⟩
          exact h
  · rw [grantedRecord_publicKey hempty, or_iff_left fun h => hempty h.1]
    exact ⟨fun h => h key rfl, fun h _ hkey => (Option.some.inj hkey).symm.trans h⟩

theorem upheld_grantedRecord_iff {record : TrustRecord} {existing : Option TrustRecord} :
    record.Upheld (grantedRecord existing now nodeId (some key) args) ↔ record.status ≠ .revoked
      ∧ ∀ pinned, record.publicKey = some pinned → pinned ≠ "" →
          key = pinned ∨ key = "" ∧ ∃ held, existing = some held
            ∧ ∀ key', held.publicKey = some key' → key' = pinned := by
  rw [TrustRecord.Upheld, grantedRecord_status]
  refine and_congr (imp_congr_right fun _ => iff_of_false (· rfl) id) ?_
  exact forall₃_congr fun pinned _ hpinned => grantedRecord_key_iff hpinned

/-- What is held after a grant upholds what reads found before it if and only if
the grant may be made. -/
theorem upheld_grantTrust_iff :
    (∀ other record record', t.found codec other = some record →
        (t.grantTrust codec now fault nodeId (some key) args).2.records.get? other = some record' →
        record.Upheld record')
      ↔ t.MayGrant codec nodeId key := by
  constructor
  · intro h
    refine ⟨fun record hrecord => ?_, fun other record held hother hrecord hheld => ?_⟩
    · exact upheld_grantedRecord_iff.mp
        (h nodeId record _ hrecord (grantTrust_records.trans (if_pos rfl)))
    · exact h other record held hrecord ((grantTrust_records.trans (if_neg hother)).trans hheld)
  · intro h other record record' hrecord hrecord'
    rw [grantTrust_records] at hrecord'
    split_ifs at hrecord' with hother
    · subst hother
      obtain rfl := Option.some.inj hrecord'
      exact upheld_grantedRecord_iff.mpr (h.named record hrecord)
    · exact h.others other record record' hother hrecord hrecord'

/-- Where reads find what is held, records are upheld if what is held upholds them. -/
theorem respects_iff_of_rel {before after : TrustService}
    (hrel : ∀ other, Option.Rel KeepsStanding (after.records.get? other)
      (after.found codec other)) :
    Respects codec before after
      ↔ ∀ other record record', before.found codec other = some record →
      after.records.get? other = some record' →
          record.Upheld record' := by
  refine forall₂_congr fun other record => ?_
  have hrel := hrel other
  generalize after.found codec other = found at hrel ⊢
  generalize after.records.get? other = held at hrel ⊢
  cases hrel with
  | none => exact iff_of_true (fun _ _ hnone => by cases hnone) (fun _ _ hnone => by cases hnone)
  | some hkeeps =>
      constructor
      · rintro h record' hfound ⟨⟩
        exact (TrustRecord.upheld_congr hkeeps).mp (h _ hfound rfl)
      · rintro h record' hfound ⟨⟩
        exact (TrustRecord.upheld_congr hkeeps).mpr (h _ hfound rfl)

theorem respects_grantTrust_iff_of_saved (hcodec : codec.Restores KeepsStanding)
    (h : t.initialized = true
      ∨ ∃ written, (t.grantTrust codec now fault nodeId (some key) args).1 = .ok written) :
    Respects codec t (t.grantTrust codec now fault nodeId (some key) args).2
      ↔ t.MayGrant codec nodeId key :=
  (respects_iff_of_rel fun other => rel_found_of_saved hcodec other h).trans upheld_grantTrust_iff

/-- A grant without metadata writes what is held. -/
theorem wellFormed_grant_iff {publicKey : Option String} {existing : Option TrustRecord}
    (hargs : args.metadata = none) : (Change.grant publicKey args).WellFormed scalars existing
      ↔ ∀ record, existing = some record → record.Serialisable scalars := by
  rw [Change.WellFormed, Change.metadata, hargs]
  cases existing with
  | none => exact iff_of_true (fun _ _ h => by cases h) (fun _ h => by cases h)
  | some held => exact ⟨fun h _ hrecord => Option.some.inj hrecord ▸ h, fun h => h held rfl⟩

/-- A grant without metadata fails on a service that is not loaded if and
only if it is not saved. -/
theorem unsaved_iff (hargs : args.metadata = none) (now : DateTime) (nodeId key : String) :
    t.Unsaved scalars fault ↔ ¬t.initialized = true
      ∧ ∃ exc, (t.grantTrust scalars.recordCodec now fault nodeId (some key) args).1
        = .error exc := by
  refine and_congr_right fun _ => ?_
  have hrecords : ((Change.grant (some key) args).WellFormed scalars (t.records.get? nodeId)
        ∧ ∀ other record, other ≠ nodeId → t.records.get? other = some record →
          record.Serialisable scalars)
      ↔ ∀ other record, t.records.get? other = some record → record.Serialisable scalars := by
    rw [wellFormed_grant_iff hargs]
    constructor
    · rintro ⟨hnamed, hothers⟩ other record hrecord
      by_cases hother : other = nodeId
      · exact hnamed record (hother ▸ hrecord)
      · exact hothers other record hother hrecord
    · exact fun h => ⟨fun record => h nodeId record, fun other record _ => h other record⟩
  have hsucceeds :
    (∃ written, (t.grantTrust scalars.recordCodec now fault nodeId (some key) args).1 = .ok written)
      ↔ _ := change_succeeds_iff (c := .grant (some key) args)
  rw [← hrecords, ← hsucceeds]
  cases (t.grantTrust scalars.recordCodec now fault nodeId (some key) args).1 with
  | error exc => exact iff_of_true (fun ⟨_, h⟩ => by cases h) ⟨exc, rfl⟩
  | ok written => exact iff_of_false (fun h => h ⟨written, rfl⟩) (fun ⟨_, h⟩ => by cases h)

/-- A grant respects the records if and only if it may be made, or leaves no trace. -/
theorem respects_grantTrust_iff (hscalars : scalars.Lawful) (hargs : args.metadata = none) :
    Respects scalars.recordCodec t
      (t.grantTrust scalars.recordCodec now fault nodeId (some key) args).2
      ↔ t.Unsaved scalars fault ∨ t.MayGrant scalars.recordCodec nodeId key := by
  rw [unsaved_iff hargs now nodeId key]
  by_cases hinit : t.initialized = true
  · rw [respects_grantTrust_iff_of_saved (keepsStanding hscalars) (.inl hinit)]
    exact (or_iff_right fun h => h.1 hinit).symm
  · cases hgrant : (t.grantTrust scalars.recordCodec now fault nodeId (some key) args).1 with
    | error exc =>
        refine iff_of_true (fun other record record' hrecord hrecord' => ?_)
          (.inl ⟨hinit, exc, rfl⟩)
        rw [found_of_failed hinit hgrant, hrecord] at hrecord'
        exact Option.some.inj hrecord' ▸ .refl record
    | ok written =>
        rw [respects_grantTrust_iff_of_saved (keepsStanding hscalars) (.inr ⟨written, hgrant⟩)]
        exact (or_iff_right fun ⟨_, _, herror⟩ => by cases herror).symm

end TrustService

namespace BootstrapService

variable {ed : Ed25519} {codec : RecordCodec} {b : BootstrapService} {nodeName sessionId : String}
  {createdAt now : DateTime} {fault : Option SaveFault} {trust : TrustService} {σ : Type}
  {send : σ → BootstrapRequest → Except Exc BootstrapResponse × σ} {remote : σ}

/-- From an authenticated session on, the grant is always made. -/
theorem establish_trust {session : BootstrapSession} {response : BootstrapResponse}
    (hstate : session.state = .authenticating) :
    (b.establish codec now fault trust session response).2.2
      = (trust.grantTrust codec now fault response.authorityNodeId
        (some response.authorityPublicKey)
          { relationship := .infrastructure, «alias» := "Bootstrap Authority" }).2 := by
  obtain ⟨sessionId, state, createdAt⟩ := session
  cases hstate
  have htrusted : (⟨sessionId, .authenticating, createdAt⟩ : BootstrapSession).transition
      .trustEstablished = .ok ⟨sessionId, .trustEstablished, createdAt⟩ := rfl
  rw [establish, htrusted]
  dsimp only
  rcases hgrant : trust.grantTrust codec now fault response.authorityNodeId
    (some response.authorityPublicKey)
    { relationship := .infrastructure, «alias» := "Bootstrap Authority" } with ⟨_ | record, trust'⟩
  · rfl
  · rfl

/-- The response that the device gets to its request, if it gets one. -/
def responseTo (ed : Ed25519) (b : BootstrapService) (nodeName sessionId : String)
    (createdAt : DateTime) (send : σ → BootstrapRequest → Except Exc BootstrapResponse × σ)
    (remote : σ) : Option BootstrapResponse :=
  (b.prepareRequest ed nodeName sessionId createdAt).toOption.bind fun prepared =>
    (send remote prepared.2).1.toOption

/-- The records change only by the grant to the authority of an accepted response. -/
theorem executeClientBootstrap_trust :
    (b.executeClientBootstrap ed codec nodeName sessionId createdAt now fault
      trust send remote).2.2.1 = match responseTo ed b nodeName sessionId createdAt send remote with
        | some response =>
            if response.accepted then
              (trust.grantTrust codec now fault response.authorityNodeId
                (some response.authorityPublicKey)
                { relationship := .infrastructure, «alias» := "Bootstrap Authority" }).2
            else trust
        | none => trust := by
  rw [executeClientBootstrap, responseTo]
  cases hprepare : b.prepareRequest ed nodeName sessionId createdAt with
  | error exc => rfl
  | ok prepared =>
      obtain ⟨session, request⟩ := prepared
      obtain ⟨-, hstate, -⟩ := prepareRequest_ok hprepare
      simp only [Except.toOption, Option.bind_some]
      rcases send remote request with ⟨_ | response, remote'⟩
      · rfl
      · dsimp only
        split_ifs with haccepted
        · exact establish_trust hstate
        · rfl

/-- **Trust policy of a joining device.** It is respected if and only if an accepted response names
no revoked node, and none with a key other than the pinned one, unless the grant leaves no trace. -/
theorem executeClientBootstrap_respects_iff {scalars : ScalarCodec}
    (hscalars : scalars.Lawful) (ed : Ed25519) (b : BootstrapService) (nodeName sessionId : String)
    (createdAt now : DateTime) (fault : Option SaveFault) (trust : TrustService)
    (send : σ → BootstrapRequest → Except Exc BootstrapResponse × σ)
    (remote : σ) :
    TrustService.Respects scalars.recordCodec trust
      (b.executeClientBootstrap ed scalars.recordCodec nodeName sessionId
          createdAt now fault trust send remote).2.2.1
      ↔ ∀ response, responseTo ed b nodeName sessionId createdAt send remote = some response →
          response.accepted = true → trust.Unsaved scalars fault
            ∨ trust.MayGrant scalars.recordCodec response.authorityNodeId
              response.authorityPublicKey := by
  rw [executeClientBootstrap_trust]
  cases hresponse : responseTo ed b nodeName sessionId createdAt send remote with
  | none => exact iff_of_true (.refl trust) fun _ h => by cases h
  | some response =>
      dsimp only
      split_ifs with haccepted
      · rw [TrustService.respects_grantTrust_iff hscalars rfl]
        constructor
        · rintro h _ ⟨⟩ _
          exact h
        · exact fun h => h response rfl haccepted
      · refine iff_of_true (.refl trust) ?_
        rintro _ ⟨⟩ haccepted'
        exact absurd haccepted' haccepted

/-- The authority `a` accepts, with its key. -/
def acceptance : BootstrapResponse where
  requestId := "s"
  accepted := true
  authorityNodeId := "a"
  authorityPublicKey := "key"
  timestamp := .epoch

/-- A device whose requests are accepted. -/
noncomputable def acceptedDevice (trust : TrustService) : TrustService :=
  (executeClientBootstrap transparentEd25519 ScalarCodec.iso.recordCodec
    ⟨some "c", some (.new "c" ⟨[1]⟩ 1000)⟩ "laptop" "s" .epoch .epoch none trust
    (fun (_ : Unit) _ => (.ok acceptance, ())) ()).2.2.1

/-- It trusts the node `a`, whose key is pinned. -/
def pinnedAuthority : TrustService :=
  ⟨⟨"trust_store.json", .absent⟩,
    Dict.empty.set "a" { TrustRecord.new "a" .trusted .epoch with publicKey := some "key" }, true⟩

theorem executeClientBootstrap_respects_pinnedAuthority :
    TrustService.Respects ScalarCodec.iso.recordCodec pinnedAuthority
      (acceptedDevice pinnedAuthority) := by
  refine (executeClientBootstrap_respects_iff ScalarCodec.iso_lawful ..).mpr
    fun response hresponse _ => .inr ?_
  obtain rfl : acceptance = response := Option.some.inj hresponse
  refine (TrustService.mayGrant_iff_of_initialized rfl).mpr fun record hrecord => ?_
  obtain rfl := Option.some.inj hrecord
  refine ⟨by decide, fun pinned hpinned _ => .inl ?_⟩
  exact Option.some.inj hpinned

/-- It holds the node `a` as revoked. -/
def revokedAuthority : TrustService :=
  ⟨⟨"trust_store.json", .absent⟩, Dict.empty.set "a" (TrustRecord.new "a" .revoked .epoch), true⟩

/-- A node that was revoked is trusted again once it accepts a request. -/
theorem acceptance_restores_revoked :
    ¬TrustService.Respects ScalarCodec.iso.recordCodec revokedAuthority
      (acceptedDevice revokedAuthority) := by
  intro h
  obtain ⟨hrevoked, -⟩ := h "a" (TrustRecord.new "a" .revoked .epoch) _ rfl rfl
  exact hrevoked rfl rfl

end BootstrapService

end Shyam
