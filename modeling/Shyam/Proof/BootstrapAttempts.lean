import Mathlib.Logic.Relation
import Shyam.Bootstrap.Attempts

/-!
# Which attempts are closed

The session of an attempt is stored when it starts, and again when the transport fails, the
authority rejects, the first synchronization fails or everything succeeds. Whatever else raises
leaves the session as it started.
-/

namespace Shyam

open Python Interaction

namespace BootstrapAttempt

variable {Sync : Type}

/-- A response of which an attribute that is read is missing. -/
def Reply.Unusable (reply : Reply) : Prop :=
  (∃ exc, reply.accepted = .error exc)
    ∨ reply.accepted = .ok true
      ∧ ((∃ exc, reply.authorityNodeId = .error exc) ∨ ∃ exc, reply.authorityPublicKey = .error exc)

/-- A collaborator that raises, or is missing, where nothing handles it. -/
def Abandons : Event (Answer Sync) → Prop
  | ⟨.store _, _⟩ => False
  | ⟨.identity, answer⟩ => ∀ localIdentity, answer ≠ .ok (some localIdentity)
  | ⟨.syncService, answer⟩ => ∀ sync, answer ≠ .ok (some sync)
  | ⟨.publicKeyB64 _, answer⟩ => ∃ exc, answer = .error exc
  | ⟨.sign _ _, answer⟩ => ∃ exc, answer = .error exc
  | ⟨.sendRequest _, answer⟩ => ∃ reply, answer = .ok reply ∧ reply.Unusable
  | ⟨.grantTrust _ _ _, answer⟩ => ∃ exc, answer = .error exc
  | ⟨.incrementLocalVersion _, _⟩ => False

/-- Along transitions that the session model allows. -/
def Reaches : BootstrapSession → BootstrapSession → Prop :=
  Relation.ReflTransGen fun session session' => ∃ newState,
    session.transition newState = .ok session'

/-- The session that is stored is a terminal one, and the one that is returned, if one is. -/
def Closed (before : Dict BootstrapSession) (initial : BootstrapSession) (past : Past Sync)
    (result : Except Exc BootstrapSession) : Prop :=
  ∃ session, (sessions before past).get? initial.sessionId = some session
    ∧ (session.state = .ready ∨ session.state = .rejected ∨ session.state = .failed)
    ∧ Reaches initial session ∧ ∀ returned, result = .ok returned → returned = session

/-- The session is stored as it started, and nothing has been abandoned. -/
structure Pending (before : Dict BootstrapSession) (initial : BootstrapSession)
    (past : Past Sync) : Prop where
  stored : (sessions before past).get? initial.sessionId = some initial
  handled : ∀ e ∈ past, ¬Abandons e

/-- The attempt has ended as it should. -/
def Ends (before : Dict BootstrapSession) (initial : BootstrapSession) (past : Past Sync)
    (result : Except Exc BootstrapSession) : Prop :=
  Closed before initial past result ↔ ∀ e ∈ past, ¬Abandons e

variable {before : Dict BootstrapSession} {initial session : BootstrapSession} {past : Past Sync}
  {e : Event (Answer Sync)} {result : Except Exc BootstrapSession} {sessionId : String}
  {createdAt : DateTime}

/-! ### Events -/

theorem sessions_append_store : sessions before (past ++ [⟨.store session, ()⟩])
    = (sessions before past).set session.sessionId session := by
  rw [sessions, List.foldl_append]
  rfl

theorem sessions_append (he : ∀ session, e.op ≠ .store session) :
    sessions before (past ++ [e]) = sessions before past := by
  rw [sessions, List.foldl_append, List.foldl_cons, List.foldl_nil]
  split
  · rename_i session hop
    exact absurd hop (he session)
  · rfl

theorem forall_append (hpast : ∀ e ∈ past, ¬Abandons e) (he : ¬Abandons e) :
    ∀ e' ∈ past ++ [e], ¬Abandons e' := by
  intro e' hmem
  rcases List.mem_append.mp hmem with hmem | hmem
  · exact hpast e' hmem
  · exact List.mem_singleton.mp hmem ▸ he

theorem Pending.append (h : Pending before initial past) (hstore : ∀ session, e.op ≠ .store session)
    (he : ¬Abandons e) : Pending before initial (past ++ [e]) :=
  ⟨(congrArg (·.get? initial.sessionId) (sessions_append hstore)).trans h.stored,
    forall_append h.handled he⟩

/-- After a failure that nothing handles the session is still the one that was stored first. -/
theorem Pending.ends_of_abandons (h : Pending before initial past)
    (hinitial : initial.state = .uninitialized) (hstore : ∀ session, e.op ≠ .store session)
    (he : Abandons e) : Ends before initial (past ++ [e]) result := by
  refine iff_of_false ?_ fun hnone => hnone e (List.mem_append_right past List.mem_cons_self) he
  rintro ⟨session, hsession, hstate, -⟩
  rw [sessions_append hstore, h.stored, Option.some.injEq] at hsession
  rw [← hsession, hinitial] at hstate
  rcases hstate with hstate | hstate | hstate <;> cases hstate

/-- Storing a terminal session closes the attempt. -/
theorem Pending.ends_of_store (h : Pending before initial past)
    (hsame : session.sessionId = initial.sessionId)
    (hstate : session.state = .ready ∨ session.state = .rejected ∨ session.state = .failed)
    (hreaches : Reaches initial session)
    (hresult : ∀ returned, result = .ok returned → returned = session) :
    Ends before initial (past ++ [⟨.store session, ()⟩]) result := by
  refine iff_of_true ⟨session, ?_, hstate, hreaches, hresult⟩ (forall_append h.handled id)
  rw [sessions_append_store, hsame, Dict.get?_set, if_pos rfl]

/-- Nothing is returned by an attempt that raises after that. -/
theorem Pending.ends_of_store_of_error {exc : Exc} (h : Pending before initial past)
    (hsame : session.sessionId = initial.sessionId)
    (hstate : session.state = .ready ∨ session.state = .rejected ∨ session.state = .failed)
    (hreaches : Reaches initial session) :
    Ends before initial (past ++ [⟨.store session, ()⟩]) (.error exc) :=
  h.ends_of_store hsame hstate hreaches fun _ hreturned => by cases hreturned

/-! ### Transitions -/

theorem reaches_authenticating :
    Reaches ⟨sessionId, .uninitialized, createdAt⟩ ⟨sessionId, .authenticating, createdAt⟩ :=
  ((Relation.ReflTransGen.single ⟨.identityReady, rfl⟩).tail
    (c := ⟨sessionId, .bootstrapRequested, createdAt⟩) ⟨.bootstrapRequested, rfl⟩).tail
      ⟨.authenticating, rfl⟩

theorem reaches_syncing :
    Reaches ⟨sessionId, .uninitialized, createdAt⟩ ⟨sessionId, .syncing, createdAt⟩ :=
  ((reaches_authenticating.tail (c := ⟨sessionId, .trustEstablished, createdAt⟩)
    ⟨.trustEstablished, rfl⟩).tail
    (c := ⟨sessionId, .stateInitializing, createdAt⟩) ⟨.stateInitializing, rfl⟩).tail
      ⟨.syncing, rfl⟩

/-! ### The program -/

abbrev Meets (before : Dict BootstrapSession) (initial : BootstrapSession) (past : Past Sync)
    (script : Script Sync BootstrapSession) : Prop :=
  Program.Meets (fun _ _ => True) (Ends before initial) past script

section Program

variable {sync : Sync} {reply : Reply} {request : BootstrapRequest} {localIdentity : LocalIdentity}
  {nodeId : String}

theorem meets_establish (h : Pending before ⟨sessionId, .uninitialized, createdAt⟩ past)
    (haccepted : reply.accepted = .ok true) :
    Meets before ⟨sessionId, .uninitialized, createdAt⟩
      (past ++ [⟨.sendRequest request, .ok reply⟩])
      (establish ⟨sessionId, .authenticating, createdAt⟩ sync reply) := by
  obtain ⟨accepted, reason, nodeId, publicKey⟩ := reply
  cases nodeId with
  | error exc =>
      exact h.ends_of_abandons rfl (fun _ => nofun) ⟨_, rfl, .inr ⟨haccepted, .inl ⟨exc, rfl⟩⟩⟩
  | ok nodeId =>
      cases publicKey with
      | error exc =>
          exact h.ends_of_abandons rfl (fun _ => nofun) ⟨_, rfl, .inr ⟨haccepted, .inr ⟨exc, rfl⟩⟩⟩
      | ok publicKey =>
          have hreplied : ¬Abandons (⟨.sendRequest request,
            .ok ⟨accepted, reason, .ok nodeId, .ok publicKey⟩⟩ :
              Event (Answer Sync)) := by
            rintro ⟨reply, hreply, hunusable⟩
            cases hreply
            rcases hunusable with ⟨exc, herror⟩ | ⟨-, ⟨exc, herror⟩ | ⟨exc, herror⟩⟩
            · cases haccepted.symm.trans herror
            · cases herror
            · cases herror
          have h := h.append (fun _ => by nofun) hreplied
          refine ⟨trivial, fun granted => ?_⟩
          cases granted with
          | error exc => exact h.ends_of_abandons rfl (fun _ => nofun) ⟨exc, rfl⟩
          | ok =>
              have h := h.append (e := ⟨.grantTrust nodeId publicKey
                { relationship := .infrastructure, «alias» := "Bootstrap Authority" }, .ok ()⟩)
                  (fun _ => nofun) nofun
              refine ⟨trivial, fun incremented => ?_⟩
              have h :=
                h.append (e := ⟨.incrementLocalVersion sync, incremented⟩) (fun _ => nofun) id
              cases incremented with
              | error exc =>
                  refine ⟨trivial, fun _ => ?_⟩
                  exact h.ends_of_store_of_error rfl (.inr (.inr rfl))
                    (reaches_syncing.tail ⟨.failed, rfl⟩)
              | ok =>
                  refine ⟨trivial, fun _ => ?_⟩
                  refine h.ends_of_store rfl (.inl rfl) (reaches_syncing.tail ⟨.ready, rfl⟩)
                    fun returned hreturned => ?_
                  cases hreturned
                  rfl

theorem meets_conclude (h : Pending before ⟨sessionId, .uninitialized, createdAt⟩ past) :
    Meets before ⟨sessionId, .uninitialized, createdAt⟩
      (past ++ [⟨.sendRequest request, .ok reply⟩])
      (conclude ⟨sessionId, .authenticating, createdAt⟩ sync nodeId reply) := by
  rw [conclude]
  cases haccepted : reply.accepted with
  | error exc => exact h.ends_of_abandons rfl (fun _ => nofun) ⟨_, rfl, .inl ⟨exc, haccepted⟩⟩
  | ok accepted =>
      cases accepted with
      | true => exact meets_establish h haccepted
      | false =>
          have hreplied : ¬Abandons (⟨.sendRequest request, .ok reply⟩ : Event (Answer Sync)) := by
            rintro ⟨reply, hreply, hunusable⟩
            cases hreply
            rcases hunusable with ⟨exc, herror⟩ | ⟨htrue, -⟩
            · cases haccepted.symm.trans herror
            · cases haccepted.symm.trans htrue
          have h := h.append (fun _ => by nofun) hreplied
          have hreaches :=
            reaches_authenticating.tail (c := ⟨sessionId, .rejected, createdAt⟩) ⟨.rejected, rfl⟩
          refine ⟨trivial, fun _ => ?_⟩
          obtain ⟨accepted, reason, nodeId, publicKey⟩ := reply
          cases reason with
          | error exc => exact h.ends_of_store_of_error rfl (.inr (.inl rfl)) hreaches
          | ok reason => exact h.ends_of_store_of_error rfl (.inr (.inl rfl)) hreaches

theorem meets_sendRequest (h : Pending before ⟨sessionId, .uninitialized, createdAt⟩ past) :
    Meets before ⟨sessionId, .uninitialized, createdAt⟩ past
      (tryCatch (sendRequest request)
          (failing ⟨sessionId, .authenticating, createdAt⟩ "Transport transmission failed")
        >>= conclude ⟨sessionId, .authenticating, createdAt⟩ sync nodeId) := by
  refine ⟨trivial, fun reply => ?_⟩
  cases reply with
  | ok reply => exact meets_conclude h
  | error exc =>
      have h := h.append (e := ⟨.sendRequest request, .error exc⟩) (fun _ => nofun) nofun
      refine ⟨trivial, fun _ => ?_⟩
      exact h.ends_of_store_of_error rfl (.inr (.inr rfl))
        (reaches_authenticating.tail ⟨.failed, rfl⟩)

theorem meets_submit (h : Pending before ⟨sessionId, .uninitialized, createdAt⟩ past) :
    Meets before ⟨sessionId, .uninitialized, createdAt⟩ past
      (submit ⟨sessionId, .bootstrapRequested, createdAt⟩ localIdentity sync) := by
  refine ⟨trivial, fun publicKey => ?_⟩
  cases publicKey with
  | error exc => exact h.ends_of_abandons rfl (fun _ => nofun) ⟨exc, rfl⟩
  | ok publicKey =>
      have h := h.append (e := ⟨.publicKeyB64 sync, .ok publicKey⟩) (fun _ => nofun) nofun
      refine ⟨trivial, fun signature => ?_⟩
      cases signature with
      | error exc => exact h.ends_of_abandons rfl (fun _ => nofun) ⟨exc, rfl⟩
      | ok signature => exact meets_sendRequest (h.append (fun _ => by nofun) (by nofun))

end Program

/-- **Bootstrap sessions.** An attempt is closed if and only if no collaborator is missing or raises
where nothing handles it. -/
theorem executeClientBootstrap_closed_iff (before : Dict BootstrapSession) (sessionId : String)
    (createdAt : DateTime) (answers : Past Sync → (op : Op Sync) → Answer Sync op) :
    Closed before { sessionId := sessionId, createdAt := createdAt }
        ((executeClientBootstrap sessionId createdAt).run answers []).1
        ((executeClientBootstrap sessionId createdAt).run answers []).2
      ↔ ∀ e ∈ ((executeClientBootstrap sessionId createdAt).run answers []).1, ¬Abandons e := by
  suffices hmeets : Meets before ⟨sessionId, .uninitialized, createdAt⟩ []
      (executeClientBootstrap sessionId createdAt : Script Sync BootstrapSession) from
    hmeets.run answers
  refine ⟨trivial, fun _ => ?_⟩
  have h : Pending before ⟨sessionId, .uninitialized, createdAt⟩
      ([⟨.store ⟨sessionId, .uninitialized, createdAt⟩, ()⟩] : Past Sync) := by
    refine ⟨(Dict.get?_set ..).trans (if_pos rfl), fun e he => ?_⟩
    rw [List.mem_singleton] at he
    exact he ▸ id
  refine ⟨trivial, fun identified => ?_⟩
  rcases identified with exc | _ | localIdentity
  · exact h.ends_of_abandons rfl (fun _ => nofun) nofun
  · exact h.ends_of_abandons rfl (fun _ => nofun) nofun
  · have h := h.append (e := ⟨.identity, .ok (some localIdentity)⟩) (fun _ => nofun)
      fun hnone => hnone _ rfl
    refine ⟨trivial, fun service => ?_⟩
    rcases service with exc | _ | sync
    · exact h.ends_of_abandons rfl (fun _ => nofun) nofun
    · exact h.ends_of_abandons rfl (fun _ => nofun) nofun
    · exact meets_submit (h.append (e := ⟨.syncService, .ok (some sync)⟩) (fun _ => nofun)
        fun hnone => hnone _ rfl)

/-- A node that has an identity, and no synchronization service yet. -/
def notSynchronizing : Past Unit → (op : Op Unit) → Answer Unit op
  | _, .store _ => ()
  | _, .identity => .ok (some ⟨"n", "laptop"⟩)
  | _, .syncService => .ok none
  | _, .publicKeyB64 _ => .ok "key"
  | _, .sign _ _ => .ok []
  | _, .sendRequest _ => .error ⟨"ConnectionError", ""⟩
  | _, .grantTrust _ _ _ => .ok ()
  | _, .incrementLocalVersion _ => .ok ()

/-- Its attempt raises, and leaves the session as it started. -/
theorem attempt_left_open :
    ¬Closed ∅ { sessionId := "s", createdAt := .epoch }
      ((executeClientBootstrap "s" .epoch).run notSynchronizing []).1
      ((executeClientBootstrap "s" .epoch).run notSynchronizing []).2 := by
  rintro ⟨session, hsession, hstate, -⟩
  obtain rfl : session = { sessionId := "s", createdAt := .epoch } :=
    (Option.some.inj hsession).symm
  rcases hstate with hstate | hstate | hstate <;> cases hstate

/-! ### The joining device -/

/-- The collaborators of a bootstrap service, with what its transport reaches. -/
def collaborators {σ : Type} (ed : Ed25519) (codec : RecordCodec)
    (b : BootstrapService) (nodeName : String) (now : DateTime) (fault : Option SaveFault)
    (trust : TrustService)
    (send : σ → BootstrapRequest → Except Exc BootstrapResponse × σ) (remote : σ) :
    (op : Op SyncService) → Answer SyncService op
  | .store _ => ()
  | .identity => .ok (b.identity.map fun nodeId => ⟨nodeId, nodeName⟩)
  | .syncService => .ok b.syncService
  | .publicKeyB64 sync => .ok (sync.keypair.publicKeyB64 ed)
  | .sign sync data => .ok (sync.keypair.sign ed data)
  | .sendRequest request => (send remote request).1.map Reply.ofResponse
  | .grantTrust nodeId publicKey args =>
      (trust.grantTrust codec now fault nodeId (some publicKey) args).1.map fun _ => ()
  | .incrementLocalVersion _ => .ok ()

variable {σ : Type} {ed : Ed25519} {codec : RecordCodec} {b : BootstrapService}
  {nodeName sessionId : String} {createdAt now : DateTime} {fault : Option SaveFault}
  {trust : TrustService} {send : σ → BootstrapRequest → Except Exc BootstrapResponse × σ}
  {remote : σ}

theorem eval_establish {sync : SyncService} {response : BootstrapResponse} :
    (establish ⟨sessionId, .authenticating, createdAt⟩ sync (.ofResponse response)).eval
        (collaborators ed codec b nodeName now fault trust send remote)
      = (b.establish codec now fault trust ⟨sessionId, .authenticating, createdAt⟩ response).1 := by
  have htrusted : (⟨sessionId, .authenticating, createdAt⟩ : BootstrapSession).transition
    .trustEstablished
      = .ok ⟨sessionId, .trustEstablished, createdAt⟩ := rfl
  have hestablish : establish ⟨sessionId, .authenticating, createdAt⟩ sync (.ofResponse response)
      = grantTrust response.authorityNodeId response.authorityPublicKey
          { relationship := .infrastructure, «alias» := "Bootstrap Authority" }
        >>= fun _ => synchronize ⟨sessionId, .trustEstablished, createdAt⟩ sync := rfl
  have hgranted : (grantTrust response.authorityNodeId response.authorityPublicKey
        { relationship := .infrastructure, «alias» := "Bootstrap Authority" }).eval
          (collaborators ed codec b nodeName now fault trust send remote)
      = (trust.grantTrust codec now fault response.authorityNodeId
        (some response.authorityPublicKey)
          { relationship := .infrastructure, «alias» := "Bootstrap Authority" }).1.map
            fun _ => () := rfl
  rw [BootstrapService.establish, htrusted, hestablish, Program.eval_bind, hgranted]
  dsimp only
  rcases trust.grantTrust codec now fault response.authorityNodeId
    (some response.authorityPublicKey)
    { relationship := .infrastructure, «alias» := "Bootstrap Authority" }
      with ⟨exc | record, trust'⟩
  · rfl
  · rfl

theorem eval_conclude {sync : SyncService} {nodeId : String} {response : BootstrapResponse} :
    (conclude ⟨sessionId, .authenticating, createdAt⟩ sync nodeId (.ofResponse response)).eval
        (collaborators ed codec b nodeName now fault trust send remote)
      = if response.accepted then
          (b.establish codec now fault trust ⟨sessionId, .authenticating, createdAt⟩ response).1
        else .error ⟨"BootstrapRejectedError", "Bootstrap rejected for node '" ++ nodeId ++ "': "
          ++ response.rejectionReason⟩ := by
  rw [← eval_establish]
  obtain ⟨requestId, _ | _, authorityNodeId, authorityPublicKey, rejectionReason, outcome,
    timestamp⟩ := response
  · rfl
  · rfl

/-- An attempt with the collaborators of a bootstrap service comes to what its bootstrap does. -/
theorem run_executeClientBootstrap :
    ((executeClientBootstrap sessionId createdAt).run
        (fun _ => collaborators ed codec b nodeName now fault trust send remote) []).2
      = (b.executeClientBootstrap ed codec nodeName sessionId createdAt now fault trust
        send remote).1 := by
  rw [Program.run_snd_eq_eval, BootstrapService.executeClientBootstrap]
  obtain ⟨_ | nodeId, _ | sync⟩ := b
  · rfl
  · rfl
  · rfl
  · have hprepare : BootstrapService.prepareRequest ed ⟨some nodeId, some sync⟩
      nodeName sessionId createdAt
        = .ok (⟨sessionId, .authenticating, createdAt⟩,
          BootstrapRequest.sign ed sync.keypair ⟨sessionId, nodeId, "", nodeName, createdAt, ""⟩) :=
            rfl
    have heval : (executeClientBootstrap sessionId createdAt).eval
          (collaborators ed codec ⟨some nodeId, some sync⟩ nodeName now fault trust send remote)
        = (tryCatch
            (sendRequest (BootstrapRequest.sign ed sync.keypair
              ⟨sessionId, nodeId, "", nodeName, createdAt, ""⟩))
            (failing ⟨sessionId, .authenticating, createdAt⟩ "Transport transmission failed")
          >>= conclude ⟨sessionId, .authenticating, createdAt⟩ sync nodeId).eval
            (collaborators ed codec ⟨some nodeId, some sync⟩ nodeName now fault
              trust send remote) := rfl
    have hsent (request : BootstrapRequest) : (sendRequest request).eval
          (collaborators ed codec ⟨some nodeId, some sync⟩ nodeName now fault trust send remote)
        = (send remote request).1.map Reply.ofResponse := rfl
    rw [hprepare, heval, Program.eval_bind, Program.eval_tryCatch, hsent]
    dsimp only
    rcases send remote
      (BootstrapRequest.sign ed sync.keypair ⟨sessionId, nodeId, "", nodeName, createdAt, ""⟩)
      with ⟨exc | response, remote'⟩
    · rfl
    · refine Eq.trans eval_conclude ?_
      dsimp only
      split_ifs
      · rfl
      · rfl

end BootstrapAttempt

end Shyam
