import Shyam.Bootstrap.Client
import Shyam.Lib.Run

/-!
# A bootstrap and the synchronization after it

A bootstrap makes each device trust the id that the other one's identity has, with the key that its
synchronization service signs with. Envelopes go out under the id that the synchronization service
was built with. So what decides is whether the two ids are still the same.
-/

namespace Shyam

open Python Transition

namespace TrustService

variable {codec : RecordCodec} {now : DateTime} {fault : Option SaveFault} {t t' : TrustService}
  {nodeId other key : String} {args : GrantArgs}

/-- The record in memory lets envelopes of the node through that carry the key. -/
def Admits (t : TrustService) (nodeId key : String) : Prop :=
  ∃ record, t.records.get? nodeId = some record ∧ record.status = .trusted
    ∧ (record.pinnedKey = "" ∨ record.pinnedKey = key)

/-- A grant that succeeds admits the node with its key, and leaves every other node as it was. -/
theorem admits_grantTrust {record : TrustRecord} (hcodec : codec.Restores KeepsStanding)
    (hkey : key ≠ "")
    (hgrant : (t.grantTrust codec now fault nodeId (some key) args).1 = .ok record) :
    ∃ t', (t.grantTrust codec now fault nodeId (some key) args).2.ensureInitialized codec = .ok t'
      ∧ ∀ other, t'.Admits other key ↔ other = nodeId ∨ t.Admits other key := by
  have hmemory (other : String) :
      (t.grantTrust codec now fault nodeId (some key) args).2.Admits other key
        ↔ other = nodeId ∨ t.Admits other key := by
    rw [Admits, grantTrust_records]
    split_ifs with hother
    · refine ⟨fun _ => Or.inl hother, fun _ => ⟨_, rfl, grantedRecord_status, Or.inr ?_⟩⟩
      rw [TrustRecord.pinnedKey, grantedRecord_publicKey hkey, Option.getD_some]
    · exact (or_iff_right hother).symm
  by_cases hinit : t.initialized = true
  · exact ⟨_, ensureInitialized_of_initialized (grantTrust_initialized.trans hinit), hmemory⟩
  · obtain ⟨t', ht', hrel⟩ := ensureInitialized_putRecord_of_ok hcodec hinit hgrant
    refine ⟨t', ht', fun other => ?_⟩
    rw [← hmemory, Admits, Admits]
    have hfound := hrel other
    rw [← grantTrust] at hfound
    generalize (t.grantTrust codec now fault nodeId (some key) args).2.records.get? other = old
      at hfound
    generalize t'.records.get? other = new at hfound
    cases hfound with
    | none => simp
    | some hkeeps => simp [TrustRecord.pinnedKey, hkeeps.1, hkeeps.2]

end TrustService

namespace Receiver

variable {ed : Ed25519} {codec : RecordCodec}

/-- Every envelope that the sender creates from now on authenticates at the receiver. -/
def Authenticates (ed : Ed25519) (codec : RecordCodec) (receiver sender : Receiver) : Prop :=
  ∀ (ops : List SyncService.Op) order messageType messageId timestamp e now,
    (run (SyncService.perform ed codec) sender.sync ops).createSyncEnvelope ed order messageType
      messageId timestamp = .ok e →
    ∃ verdict, (SyncAuthenticator.authenticateIncoming ed codec now receiver.trust e).1
      = .ok verdict
      ∧ verdict.valid = true

def key (ed : Ed25519) (r : Receiver) : String := r.sync.keypair.publicKeyB64 ed

theorem run_perform_identity (ed : Ed25519) (codec : RecordCodec) (s : SyncService)
    (ops : List SyncService.Op) :
    (run (SyncService.perform ed codec) s ops).localNodeId = s.localNodeId
      ∧ (run (SyncService.perform ed codec) s ops).keypair = s.keypair := by
  induction ops generalizing s with
  | nil =>
      rw [run_nil]
      exact ⟨rfl, rfl⟩
  | cons op ops ih =>
      rw [run_cons]
      obtain ⟨hid, hkeypair⟩ := ih (s.perform ed codec op)
      exact ⟨hid.trans (SyncService.localNodeId_perform op),
        hkeypair.trans (SyncService.keypair_perform op)⟩

/-- The record of the sender's id decides. -/
theorem authenticates_iff (hed : ed.Lawful) {receiver sender : Receiver} {trust : TrustService}
    (hloaded : receiver.trust.ensureInitialized codec = .ok trust)
    (hid : sender.sync.localNodeId ≠ "") : Authenticates ed codec receiver sender
      ↔ trust.Admits sender.sync.localNodeId (sender.key ed) := by
  have hread (now : DateTime) : (receiver.trust.getRecord codec now sender.sync.localNodeId).1
      = .ok (trust.records.getD sender.sync.localNodeId
          (TrustRecord.new sender.sync.localNodeId .unknown now)) := by
    rw [TrustService.getRecord, hloaded]
  constructor
  · intro h
    obtain ⟨verdict, hverdict, hvalid⟩ := h [] .insertion "sync_response" "" .epoch _ .epoch
      (SyncService.createSyncEnvelope_eq ..)
    obtain ⟨-, record, hrecord, hauth⟩ :=
      SyncAuthenticator.authenticateIncoming_valid hverdict hvalid
    have hfound := (hread .epoch).symm.trans hrecord
    rw [Except.ok.injEq] at hfound
    cases hmemory : trust.records.get? sender.sync.localNodeId with
    | none =>
        rw [Dict.getD, hmemory, Option.getD_none] at hfound
        have htrusted := hauth.trusted
        rw [← hfound] at htrusted
        cases htrusted
    | some record' =>
        rw [Dict.getD, hmemory, Option.getD_some] at hfound
        subst hfound
        exact ⟨record', hmemory, hauth.trusted, hauth.pinned⟩
  · rintro ⟨record, hrecord, hstatus, hpinned⟩ ops order messageType messageId
      timestamp e now hcreated
    rw [SyncService.createSyncEnvelope_eq, Except.ok.injEq] at hcreated
    subst hcreated
    obtain ⟨hsame, hkeypair⟩ := run_perform_identity ed codec sender.sync ops
    apply SyncService.authenticates_signedEnvelope hed
    · rwa [hsame]
    · rw [hsame, hread now, Dict.getD, hrecord, Option.getD_some]
    · exact hstatus
    · rwa [hkeypair]

end Receiver

namespace BootstrapService

variable {ed : Ed25519} {codec : RecordCodec} {b : BootstrapService} {now : DateTime}
  {fault : Option SaveFault} {trust : TrustService}

/-- An accepted request was granted trust, on the loaded records. -/
theorem handleIncomingRequest_accepted {request : BootstrapRequest} {response : BootstrapResponse}
    (h : (b.handleIncomingRequest ed codec now fault trust request).1 = .ok response)
    (haccepted : response.accepted = true) :
    response.authorityNodeId = b.identity.getD ""
      ∧ response.authorityPublicKey
        = b.syncService.elim "" (fun sync => sync.keypair.publicKeyB64 ed)
      ∧ ∃ trust' record, trust.ensureInitialized codec = .ok trust'
        ∧ (trust'.grantTrust codec now fault request.nodeId (some request.publicKey)
          { relationship := .peer, «alias» := request.peerAlias }).1 = .ok record
        ∧ (b.handleIncomingRequest ed codec now fault trust request).2
          = (trust'.grantTrust codec now fault request.nodeId (some request.publicKey)
            { relationship := .peer, «alias» := request.peerAlias }).2 := by
  rw [handleIncomingRequest] at h ⊢
  cases hverified : request.verifiedBy ed request.publicKey with
  | error exc =>
      rw [hverified] at h
      cases h
      cases haccepted
  | ok valid =>
      cases valid with
      | false =>
          rw [hverified] at h
          cases h
          cases haccepted
      | true =>
          rw [hverified] at h
          simp only [enroll, TrustService.getRecord] at h ⊢
          cases hload : trust.ensureInitialized codec with
          | error exc =>
              rw [hload] at h
              cases h
          | ok trust' =>
              rw [hload] at h
              dsimp only at h ⊢
              split_ifs at h ⊢ with hrevoked
              · cases h
                cases haccepted
              · rcases hgrant : trust'.grantTrust codec now fault request.nodeId
                  (some request.publicKey)
                  { relationship := .peer, «alias» := request.peerAlias } with ⟨_ | record, trust''⟩
                · rw [hgrant] at h
                  cases h
                · rw [hgrant] at h
                  cases h
                  exact ⟨rfl, rfl, trust', record, rfl, by rw [hgrant], by rw [hgrant]⟩

theorem prepareRequest_ok {nodeName sessionId : String} {createdAt : DateTime}
    {session : BootstrapSession} {request : BootstrapRequest}
    (h : b.prepareRequest ed nodeName sessionId createdAt = .ok (session, request)) :
    b.identity = some request.nodeId ∧ session.state = .authenticating
      ∧ ∃ sync, b.syncService = some sync ∧ request.publicKey = sync.keypair.publicKeyB64 ed := by
  obtain ⟨identity, syncService⟩ := b
  cases identity with
  | none => cases h
  | some nodeId =>
      cases syncService with
      | none => cases h
      | some sync =>
          cases h
          exact ⟨rfl, rfl, sync, rfl, rfl⟩

/-- An authenticated session becomes READY with the grant to the authority. -/
theorem establish_ok {session session' : BootstrapSession} {response : BootstrapResponse}
    (hstate : session.state = .authenticating)
    (h : (b.establish codec now fault trust session response).1 = .ok session') :
    session'.state = .ready ∧ ∃ record,
      (trust.grantTrust codec now fault response.authorityNodeId (some response.authorityPublicKey)
          { relationship := .infrastructure, «alias» := "Bootstrap Authority" }).1 = .ok record
        ∧ (b.establish codec now fault trust session response).2
          = ({ b with syncService := b.syncService.map fun sync => sync.incrementLocalVersion.2 },
            (trust.grantTrust codec now fault response.authorityNodeId
              (some response.authorityPublicKey)
              { relationship := .infrastructure, «alias» := "Bootstrap Authority" }).2) := by
  obtain ⟨sessionId, state, createdAt⟩ := session
  cases hstate
  have htrusted : (⟨sessionId, .authenticating, createdAt⟩ : BootstrapSession).transition
      .trustEstablished = .ok ⟨sessionId, .trustEstablished, createdAt⟩ := rfl
  have hsyncing : ((⟨sessionId, .trustEstablished, createdAt⟩ : BootstrapSession).transition
      .stateInitializing >>= (·.transition .syncing)) = .ok ⟨sessionId, .syncing, createdAt⟩ := rfl
  rw [establish, htrusted] at h ⊢
  dsimp only at h ⊢
  rw [hsyncing] at h ⊢
  rcases hgrant : trust.grantTrust codec now fault response.authorityNodeId
    (some response.authorityPublicKey)
    { relationship := .infrastructure, «alias» := "Bootstrap Authority" } with ⟨_ | record, trust'⟩
  · rw [hgrant] at h
    cases h
  · rw [hgrant] at h
    cases h
    exact ⟨rfl, record, rfl, rfl⟩

theorem executeClientBootstrap_ok {σ : Type} {nodeName sessionId : String} {createdAt : DateTime}
    {send : σ → BootstrapRequest → Except Exc BootstrapResponse × σ} {remote : σ}
    {session : BootstrapSession}
    (h : (b.executeClientBootstrap ed codec nodeName sessionId createdAt now fault trust send
      remote).1 = .ok session) :
    session.state = .ready ∧ ∃ request response sync record,
      b.identity = some request.nodeId ∧ b.syncService = some sync
        ∧ request.publicKey = sync.keypair.publicKeyB64 ed
        ∧ (send remote request).1 = .ok response ∧ response.accepted = true
        ∧ (trust.grantTrust codec now fault response.authorityNodeId
          (some response.authorityPublicKey)
          { relationship := .infrastructure, «alias» := "Bootstrap Authority" }).1 = .ok record
        ∧ (b.executeClientBootstrap ed codec nodeName sessionId createdAt now fault trust send
          remote).2 = ({ b with syncService := some sync.incrementLocalVersion.2 },
            (trust.grantTrust codec now fault response.authorityNodeId
              (some response.authorityPublicKey)
              { relationship := .infrastructure, «alias» := "Bootstrap Authority" }).2,
            (send remote request).2) := by
  rw [executeClientBootstrap] at h ⊢
  cases hprepare : b.prepareRequest ed nodeName sessionId createdAt with
  | error exc =>
      rw [hprepare] at h
      cases h
  | ok prepared =>
      obtain ⟨session', request⟩ := prepared
      obtain ⟨hidentity, hstate, sync, hsync, hkey⟩ := prepareRequest_ok hprepare
      rw [hprepare] at h
      dsimp only at h ⊢
      rcases hsend : send remote request with ⟨_ | response, remote'⟩
      · rw [hsend] at h
        exact absurd h session'.abandon_ne_ok
      · rw [hsend] at h
        dsimp only at h ⊢
        split_ifs at h ⊢ with haccepted
        · obtain ⟨hready, record, hgrant, hafter⟩ := establish_ok hstate h
          refine ⟨hready, request, response, sync, record, hidentity, hsync, hkey, ?_, haccepted,
            hgrant, ?_⟩
          · rw [hsend]
          · rw [hsync] at hafter
            rw [hsend]
            exact congrArg (fun after => (after.1, after.2, remote')) hafter
        · exact absurd h session'.abandon_ne_ok

end BootstrapService

/-- Two devices, one of which is to join by way of the other. -/
structure Pair where
  client : Receiver
  authority : Receiver

namespace Pair

inductive Side where
  | client
  | authority

structure Recovery where
  side : Side
  now : DateTime
  created : Except Exc String
  request : RecoveryRequest

/-- What a bootstrap takes from its surroundings. -/
structure Attempt where
  nodeName : String
  sessionId : String
  createdAt : DateTime
  now : DateTime
  fault : Option SaveFault
  authorityNow : DateTime
  authorityFault : Option SaveFault

def withBootstrap (r : Receiver) (b : BootstrapService) : Receiver :=
  { r with identity := b.identity, sync := b.syncService.getD r.sync }

def recoverReceiver (r : Receiver) (x : Recovery) : Receiver :=
  withBootstrap r (r.bootstrap.recoverDevice x.now x.created x.request).2

def recover (p : Pair) (x : Recovery) : Pair :=
  match x.side with
  | .client => { p with client := recoverReceiver p.client x }
  | .authority => { p with authority := recoverReceiver p.authority x }

variable (ed : Ed25519) (codec : RecordCodec)

/-- A bootstrap over a transport that delivers the request and brings back the response. -/
def bootstrap (p : Pair) (x : Attempt) : Except Exc BootstrapSession × Pair :=
  match p.client.bootstrap.executeClientBootstrap ed codec x.nodeName x.sessionId x.createdAt x.now
    x.fault p.client.trust
    (p.authority.bootstrap.handleIncomingRequest ed codec x.authorityNow x.authorityFault)
    p.authority.trust with
  | (result, b, trust, authorityTrust) =>
      (result, ⟨{ withBootstrap p.client b with trust := trust },
        { p.authority with trust := authorityTrust }⟩)

variable {ed} {codec} {p : Pair}

theorem sync_recoverReceiver (r : Receiver) (x : Recovery) :
    (recoverReceiver r x).sync.localNodeId = r.sync.localNodeId := by
  rw [recoverReceiver, withBootstrap]
  unfold BootstrapService.recoverDevice
  split
  · split <;> rfl
  · rfl
  · rfl

theorem localNodeId_recover (p : Pair) (recoveries : List Recovery) :
    (run recover p recoveries).client.sync.localNodeId = p.client.sync.localNodeId
      ∧ (run recover p recoveries).authority.sync.localNodeId = p.authority.sync.localNodeId := by
  induction recoveries generalizing p with
  | nil =>
      rw [run_nil]
      exact ⟨rfl, rfl⟩
  | cons x recoveries ih =>
      rw [run_cons]
      obtain ⟨hclient, hauthority⟩ := ih (p.recover x)
      rw [hclient, hauthority, recover]
      cases x.side with
      | client => exact ⟨sync_recoverReceiver p.client x, rfl⟩
      | authority => exact ⟨rfl, sync_recoverReceiver p.authority x⟩

/-- What a returned session says about both devices: which node each of them was granted trust for,
and that nothing else has changed. -/
theorem bootstrap_ok (hed : ed.Lawful) (hcodec : codec.Restores TrustService.KeepsStanding)
    {x : Attempt} {session : BootstrapSession}
    (hready : (p.bootstrap ed codec x).1 = .ok session) :
    ∃ nodeId trust clientTrust authorityTrust, p.client.identity = some nodeId
      ∧ p.authority.trust.ensureInitialized codec = .ok trust
      ∧ (p.bootstrap ed codec x).2.client.sync = p.client.sync.incrementLocalVersion.2
      ∧ (p.bootstrap ed codec x).2.authority.sync = p.authority.sync
      ∧ (p.bootstrap ed codec x).2.authority.trust.ensureInitialized codec = .ok authorityTrust
      ∧ (∀ other, authorityTrust.Admits other (p.client.key ed)
        ↔ other = nodeId ∨ trust.Admits other (p.client.key ed))
      ∧ (p.bootstrap ed codec x).2.client.trust.ensureInitialized codec = .ok clientTrust
      ∧ ∀ other, clientTrust.Admits other (p.authority.key ed)
        ↔ other = p.authority.identity.getD ""
          ∨ p.client.trust.Admits other (p.authority.key ed) := by
  obtain ⟨-, request, response, sync, record, hidentity, hsync, hkey, hsend, haccepted, hgrant,
    hafter⟩ := BootstrapService.executeClientBootstrap_ok hready
  obtain ⟨hnodeId, hauthorityKey, trust, record', hload, hgrant', htrust⟩ :=
    BootstrapService.handleIncomingRequest_accepted hsend haccepted
  cases hsync
  replace hkey : request.publicKey = p.client.key ed := hkey
  replace hauthorityKey : response.authorityPublicKey = p.authority.key ed := hauthorityKey
  replace hnodeId : response.authorityNodeId = p.authority.identity.getD "" := hnodeId
  rw [hkey] at hgrant' htrust
  rw [hauthorityKey] at hgrant hafter
  have hkey_ne (r : Receiver) : r.key ed ≠ "" := KeyPair.publicKeyB64_ne_empty hed _
  obtain ⟨authorityTrust, hauthorityLoad, hauthority⟩ :=
    TrustService.admits_grantTrust hcodec (hkey_ne p.client) hgrant'
  obtain ⟨clientTrust, hclientLoad, hclient⟩ :=
    TrustService.admits_grantTrust hcodec (hkey_ne p.authority) hgrant
  rw [← htrust] at hauthorityLoad
  have hclientTrust : (p.bootstrap ed codec x).2.client.trust = _ :=
    congrArg (fun after => after.2.1) hafter
  have hclientSync : (p.bootstrap ed codec x).2.client.sync = _ :=
    congrArg (fun after => after.1.syncService.getD p.client.sync) hafter
  have hauthorityTrust : (p.bootstrap ed codec x).2.authority.trust = _ :=
    congrArg (fun after => after.2.2) hafter
  refine ⟨request.nodeId, trust, clientTrust, authorityTrust, hidentity, hload, hclientSync, rfl,
    ?_, hauthority, ?_, ?_⟩
  · rw [hauthorityTrust]
    exact hauthorityLoad
  · rw [hclientTrust]
    exact hclientLoad
  · rw [← hnodeId]
    exact hclient

/-- **What a READY bootstrap enables.** After any recoveries and a bootstrap that returns its
session, each device's envelopes authenticate at the other if and only if on each device the
synchronization service still has the id of the identity, or the other device already trusted its id
with its key or with none. -/
theorem ready_enables_sync_iff (hed : ed.Lawful)
    (hcodec : codec.Restores TrustService.KeepsStanding) (hclient : p.client.sync.localNodeId ≠ "")
    (hauthority : p.authority.sync.localNodeId ≠ "") {recoveries : List Recovery} {x : Attempt}
    {session : BootstrapSession}
    (hready : ((run recover p recoveries).bootstrap ed codec x).1 = .ok session) :
    let before := run recover p recoveries
    let after := (before.bootstrap ed codec x).2
    (Receiver.Authenticates ed codec after.authority after.client
        ∧ Receiver.Authenticates ed codec after.client after.authority)
      ↔ (before.client.identity = some before.client.sync.localNodeId
          ∨ ∃ trust, before.authority.trust.ensureInitialized codec = .ok trust
            ∧ trust.Admits before.client.sync.localNodeId (before.client.key ed))
        ∧ (before.authority.identity = some before.authority.sync.localNodeId
          ∨ before.client.trust.Admits before.authority.sync.localNodeId
            (before.authority.key ed)) := by
  obtain ⟨hclientId, hauthorityId⟩ := localNodeId_recover p recoveries
  rw [← hclientId] at hclient
  rw [← hauthorityId] at hauthority
  generalize run recover p recoveries = before at *
  intro _ after
  obtain ⟨nodeId, trust, clientTrust, authorityTrust, hidentity, hload, hclientSync, hauthoritySync,
    hauthorityLoad, hauthorityAdmits, hclientLoad, hclientAdmits⟩ := bootstrap_ok hed hcodec hready
  have hsameId : after.client.sync.localNodeId = before.client.sync.localNodeId := by
    rw [hclientSync]
    rfl
  have hsameKey : after.client.key ed = before.client.key ed := by
    rw [Receiver.key, hclientSync]
    rfl
  apply and_congr
  · rw [Receiver.authenticates_iff hed hauthorityLoad (hsameId ▸ hclient), hsameId, hsameKey,
      hauthorityAdmits, hidentity, Option.some.injEq, eq_comm]
    refine or_congr_right ⟨fun hadmits => ⟨trust, hload, hadmits⟩, ?_⟩
    rintro ⟨trust', hload', hadmits⟩
    cases hload.symm.trans hload'
    exact hadmits
  · have hid : before.authority.sync.localNodeId = before.authority.identity.getD ""
        ↔ before.authority.identity = some before.authority.sync.localNodeId := by
      cases before.authority.identity with
      | none => simp [hauthority]
      | some nodeId => simp [eq_comm]
    rw [Receiver.authenticates_iff hed hclientLoad (hauthoritySync ▸ hauthority), Receiver.key,
      hauthoritySync]
    exact (hclientAdmits _).trans (or_congr_left hid)

/-! ### A lost identity -/

def newDevice (identity nodeId : String) (keypair : KeyPair) : Receiver where
  identity := some identity
  trust := ⟨⟨"trust_store.json", .absent⟩, ∅, true⟩
  sync := .new nodeId keypair 1000

/-- The client's identity may be another one than its synchronization service was built with. -/
def newDevices (identity : String) : Pair :=
  ⟨newDevice identity "c" ⟨[1]⟩, newDevice "a" "a" ⟨[2]⟩⟩

def attempt : Attempt := ⟨"laptop", "s", .epoch, .epoch, none, .epoch, none⟩

def joinRequest (nodeId : String) : BootstrapRequest where
  requestId := "s"
  nodeId := nodeId
  publicKey := ""
  nodeName := "laptop"
  timestamp := .epoch
  signature := ""

theorem bootstrap_newDevices (identity : String) :
    ((newDevices identity).bootstrap transparentEd25519 ScalarCodec.iso.recordCodec attempt).1
      = .ok ⟨"s", .ready, .epoch⟩ := by
  have hprepare : (newDevices identity).client.bootstrap.prepareRequest transparentEd25519 "laptop"
      "s" .epoch = .ok (⟨"s", .authenticating, .epoch⟩,
        (joinRequest identity).sign transparentEd25519 ⟨[1]⟩) := rfl
  simp only [bootstrap, BootstrapService.executeClientBootstrap, attempt]
  rw [hprepare]
  dsimp only
  rw [BootstrapService.handleIncomingRequest_sign _ transparentEd25519_lawful]
  rfl

theorem ready_enables_sync_iff_newDevices :
    Receiver.Authenticates transparentEd25519 ScalarCodec.iso.recordCodec
      ((run recover (newDevices "c") []).bootstrap transparentEd25519 ScalarCodec.iso.recordCodec
        attempt).2.authority
      ((run recover (newDevices "c") []).bootstrap transparentEd25519 ScalarCodec.iso.recordCodec
        attempt).2.client := by
  have hcodec := TrustService.keepsStanding ScalarCodec.iso_lawful
  have hready : ((run recover (newDevices "c") []).bootstrap transparentEd25519
      ScalarCodec.iso.recordCodec attempt).1 = .ok ⟨"s", .ready, .epoch⟩ := by
    rw [run_nil]
    exact bootstrap_newDevices "c"
  have hsame :=
    ready_enables_sync_iff transparentEd25519_lawful hcodec (by decide) (by decide) hready
  exact (hsame.mpr ⟨Or.inl rfl, Or.inl rfl⟩).1

def lostIdentity : Recovery :=
  ⟨.client, .epoch, .ok "c2", { requestId := "r", scenario := .identityLost }⟩

theorem refused_newDevices :
    ¬Receiver.Authenticates transparentEd25519 ScalarCodec.iso.recordCodec
      ((newDevices "c2").bootstrap transparentEd25519 ScalarCodec.iso.recordCodec
        attempt).2.authority
      ((newDevices "c2").bootstrap transparentEd25519 ScalarCodec.iso.recordCodec
        attempt).2.client := by
  intro hauthenticates
  obtain ⟨nodeId, trust, -, authorityTrust, hidentity, hload, hclientSync, -, hauthorityLoad,
    hadmits, -⟩ :=
    bootstrap_ok transparentEd25519_lawful (TrustService.keepsStanding ScalarCodec.iso_lawful)
      (bootstrap_newDevices "c2")
  cases hidentity
  cases hload
  rw [Receiver.authenticates_iff transparentEd25519_lawful hauthorityLoad
    (by rw [hclientSync]; decide), Receiver.key, hclientSync] at hauthenticates
  obtain hsame | ⟨record, hrecord, -⟩ := (hadmits _).mp hauthenticates
  · exact absurd hsame (by decide)
  · cases hrecord

/-- The bootstrap after it is READY, and the client's envelopes are refused. -/
theorem ready_without_sync :
    ((run recover (newDevices "c") [lostIdentity]).bootstrap transparentEd25519
        ScalarCodec.iso.recordCodec attempt).1 = .ok ⟨"s", .ready, .epoch⟩
      ∧ ¬Receiver.Authenticates transparentEd25519 ScalarCodec.iso.recordCodec
        ((run recover (newDevices "c") [lostIdentity]).bootstrap transparentEd25519
          ScalarCodec.iso.recordCodec attempt).2.authority
        ((run recover (newDevices "c") [lostIdentity]).bootstrap transparentEd25519
          ScalarCodec.iso.recordCodec attempt).2.client := by
  have hrecovered : run recover (newDevices "c") [lostIdentity] = newDevices "c2" := rfl
  rw [hrecovered]
  exact ⟨bootstrap_newDevices "c2", refused_newDevices⟩

end Pair

end Shyam
