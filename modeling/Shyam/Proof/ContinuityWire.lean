import Shyam.Proof.ContinuityTargets
import Shyam.Proof.FluxWire
import Shyam.Proof.WiredRuns

/-!
# Continuity on the wire

The continuity service with the navigator, the trust service and the clients of Zarya and Flux. A
completed session says that one candidate was ranked first and found trusted, that the artifacts and
the work have left over HTTP for its target, and that the last answer was a verified success.
-/

namespace Shyam

open Python Interaction Transition

/-! ### One request to Zarya -/

namespace Eip1

variable {client : ZaryaClient} {texts : Texts} {network : HttpRequest → HttpAnswer}
  {resp : ContinuationResponse}

/-- The response is read from what the network answers to one POST. -/
structure Exchange (client : ZaryaClient) (texts : Texts) (portableWork : Dict PyValue)
    (sourceDeviceId continuityId : String) (resp : ContinuationResponse)
    (request : HttpRequest) (body : Bytes) :
    Prop where
  prepared : client.prepare "POST" "/work/continue"
    (some (ZaryaClient.continuationBody portableWork sourceDeviceId continuityId)) true
      = .ok request
  read : ∃ value, texts.lib.loads body = .ok value ∧ readContinuation value = some resp

/-- A verified success is not a default. -/
theorem exchange_of_continueWork {portableWork : Dict PyValue}
    {sourceDeviceId continuityId : String}
    (h : client.continueWork texts network portableWork sourceDeviceId continuityId = .ok resp)
    (hverified : resp.outcome = .verifiedSuccess) :
    ∃ request body, network request = .answered body
      ∧ Exchange client texts portableWork sourceDeviceId continuityId resp request body := by
  rw [ZaryaClient.continueWork] at h
  obtain ⟨request, body, value, hprepared, hanswer, hvalue, hread⟩ := answered_of_validated h
  obtain ⟨-, rfl⟩ | hloads := hvalue
  · cases hread
    cases hverified
  · exact ⟨request, body, hanswer, hprepared, value, hloads, hread⟩

end Eip1

open Eip1 (HttpRequest HttpAnswer Texts)

namespace Continuity

/-- What stays the same while the service runs: the clients of the two gateways, and the host. -/
structure Deployment where
  zarya : Eip1.ZaryaClient
  flux : FluxGateway.FluxClient
  texts : Texts
  lower : String → String
  environ : Option String
  codec : RecordCodec

/-- What surrounds one step: the runtime at that moment, its clock and its network. -/
structure Moment where
  runtime : ShyamRuntime
  fluxConnected : Bool
  now : DateTime
  network : HttpRequest → HttpAnswer

variable (d : Deployment)

def Moment.gateways (moment : Moment) : Gateways where
  transferFile := fun _ => d.flux.transfer d.texts d.lower moment.network moment.fluxConnected
  post := fun _ => d.zarya.post d.texts moment.network d.environ

/-- The collaborators of the service, with the two gateways behind the network. -/
def Moment.collaborator (moment : Moment) :
    (op : Op EcosystemSnapshot) → Answer EcosystemSnapshot op :=
  moment.runtime.collaborators d.codec moment.now (moment.gateways d) []

/-- Every operation is answered at one of the moments. -/
def Wired (moments : Set Moment) : Action EcosystemSnapshot → Prop
  | .resume _ collaborator => ∃ moment ∈ moments, collaborator = moment.collaborator d
  | _ => True

/-- The event is the answer of one of the moments. -/
def Told (moments : Set Moment) (e : Event (Answer EcosystemSnapshot)) : Prop :=
  ∃ moment ∈ moments, ∃ service : ContinuityService,
    e.answer = service.answer (moment.collaborator d) e.op

/-- The artifact was taken by the gateway of Flux. -/
def Shipped (moments : Set Moment) (peerId artifactPath : String) : Prop :=
  ∃ moment ∈ moments, ∃ httpRequest body response, moment.fluxConnected = true
    ∧ moment.network httpRequest = .answered body
    ∧ FluxGateway.Exchange d.flux d.texts peerId artifactPath response httpRequest body
    ∧ Passes response

/-- What stands behind a success. -/
structure VerifiedBy (errorText : PyValue → PyValue → String) (moments : Set Moment)
    (continuityId : String) (request : ContinuityRequest) (handover : Handover) : Prop where
  ranked : ∃ moment ∈ moments, ∃ c, moment.runtime.FirstChoice request c
    ∧ c.toNavigationCandidate = handover.candidate
  made : makeTarget errorText handover.candidate = .ok handover.target
  trusted : handover.trustRecord.status = .trusted ∧ ∃ moment ∈ moments,
    (moment.runtime.trustService.getRecord d.codec moment.now handover.candidate.nodeId).1
      = .ok handover.trustRecord
  shipped : ∀ artifactPath ∈ request.artifactPaths,
    Shipped d moments (peerOf handover.target) artifactPath
  exchanged : ∃ moment ∈ moments, ∃ zarya httpRequest body resp,
    moment.runtime.zaryaProvider.clientFor handover.target.zaryaUrl = .ok zarya
      ∧ moment.network httpRequest = .answered body
      ∧ Eip1.Exchange (d.zarya.forTarget d.environ zarya) d.texts request.portableWork
        request.sourceDeviceId
        continuityId resp httpRequest body
      ∧ resp.outcome = .verifiedSuccess

variable {d} {moments : Set Moment} {handover : Handover} {request : ContinuityRequest}
  {past : Past EcosystemSnapshot} {errorText : PyValue → PyValue → String}

/-! ### What the moments answer -/

theorem firstChoice_of_told (htold : ∀ e ∈ past, Told d moments e)
    (h : handover.RestsOn errorText request past) : ∃ moment ∈ moments, ∃ c,
      moment.runtime.FirstChoice request c ∧ c.toNavigationCandidate = handover.candidate := by
  obtain ⟨snapshot, reason, hcreated, hnavigated⟩ := h.selected
  obtain ⟨moment, hmoment, _, hsnapshot⟩ := htold _ hcreated
  obtain ⟨_, -, _, hresult⟩ := htold _ hnavigated
  obtain rfl := Except.ok.inj hsnapshot
  have hselected := congrArg NavigationResult.selected (Except.ok.inj hresult)
  exact ⟨moment, hmoment, Navigation.navigate_selected_iff.mp hselected.symm⟩

theorem trusted_of_told (htold : ∀ e ∈ past, Told d moments e)
    (h : handover.RestsOn errorText request past) : ∃ moment ∈ moments,
      (moment.runtime.trustService.getRecord d.codec moment.now handover.candidate.nodeId).1
        = .ok handover.trustRecord := by
  obtain ⟨moment, hmoment, _, hrecord⟩ := htold _ h.asked
  change .ok (some handover.trustRecord) = Except.map some _ at hrecord
  refine ⟨moment, hmoment, ?_⟩
  cases hget :
    (moment.runtime.trustService.getRecord d.codec moment.now handover.candidate.nodeId).1 with
  | error exc =>
      rw [hget] at hrecord
      cases hrecord
  | ok record =>
      rw [hget] at hrecord
      cases hrecord
      rfl

theorem shipped_of_told (htold : ∀ e ∈ past, Told d moments e)
    (h : handover.RestsOn errorText request past) {artifactPath : String}
    (hartifact : artifactPath ∈ request.artifactPaths) :
    Shipped d moments (peerOf handover.target) artifactPath := by
  obtain ⟨response, hpasses, hmem⟩ := h.delivered artifactPath hartifact
  obtain ⟨moment, hmoment, _, hresponse⟩ := htold _ hmem
  obtain ⟨hconnected, httpRequest, body, hanswered, hexchange⟩ :=
    FluxGateway.exchange_of_transfer hresponse.symm
  exact ⟨moment, hmoment, httpRequest, body, response, hconnected, hanswered, hexchange, hpasses⟩

theorem clientFor_orElse (provider : ZaryaProvider) (targetUrl : Option String) :
    provider.clientFor (orElse targetUrl none) = provider.clientFor targetUrl := by
  rw [ZaryaProvider.clientFor, ZaryaProvider.clientFor, orElse_orElse]

theorem exchange_of_told {portableWork : Dict PyValue} {sourceDeviceId continuityId : String}
    {targetUrl : Option String} {resp : ContinuationResponse}
    (htold : Told d moments
      ⟨.continueWork portableWork sourceDeviceId continuityId (orElse targetUrl none), .ok resp⟩)
    (hverified : resp.outcome = .verifiedSuccess) :
    ∃ moment ∈ moments, ∃ zarya httpRequest body,
      moment.runtime.zaryaProvider.clientFor targetUrl = .ok zarya
        ∧ moment.network httpRequest = .answered body
        ∧ Eip1.Exchange (d.zarya.forTarget d.environ zarya) d.texts portableWork
          sourceDeviceId continuityId resp
          httpRequest body := by
  obtain ⟨moment, hmoment, _, hanswer⟩ := htold
  change .ok resp = moment.runtime.zaryaProvider.continueWork _ _ _ _ _ at hanswer
  rw [ZaryaProvider.continueWork, clientFor_orElse] at hanswer
  cases hclient : moment.runtime.zaryaProvider.clientFor targetUrl with
  | error exc =>
      rw [hclient] at hanswer
      cases hanswer
  | ok zarya =>
      rw [hclient] at hanswer
      change .ok resp = Except.mapError _ _ at hanswer
      cases hcontinued : (d.zarya.forTarget d.environ zarya).continueWork d.texts
        moment.network portableWork
          sourceDeviceId continuityId with
      | error raised =>
          rw [hcontinued] at hanswer
          cases hanswer
      | ok resp' =>
          rw [hcontinued] at hanswer
          cases hanswer
          obtain ⟨httpRequest, body, hanswered, hexchange⟩ :=
            Eip1.exchange_of_continueWork hcontinued hverified
          exact ⟨moment, hmoment, zarya, httpRequest, body, hclient, hanswered, hexchange⟩

/-- A call that Zarya has confirmed. -/
theorem exists_verifiedBy {continuityId : String} {task : Task EcosystemSnapshot}
    (hinv : task.Inv continuityId) (htraced : task.Traced errorText (Told d moments))
    (hverified : VerifiedSuccess task.past) :
    ∃ handover, VerifiedBy d errorText moments continuityId task.request handover := by
  obtain ⟨portableWork, sourceDeviceId, id, targetUrl, resp, hmem, houtcome⟩ := hverified
  obtain ⟨before, after, hpast⟩ := List.append_of_mem hmem
  obtain ⟨handover, hrests, rfl, rfl, rfl, rfl⟩ := exists_handover hinv htraced hpast
  have htold : ∀ e ∈ before, Told d moments e := by
    intro e he
    exact htraced.answered e (hpast ▸ List.mem_append_left _ he)
  obtain ⟨moment, hmoment, zarya, httpRequest, body, hclient, hanswered, hexchange⟩ :=
    exchange_of_told (htraced.answered _ hmem) houtcome
  exact ⟨handover, firstChoice_of_told htold hrests, hrests.made,
    ⟨hrests.trusted, trusted_of_told htold hrests⟩, fun _ hartifact =>
      shipped_of_told htold hrests hartifact,
    moment, hmoment, zarya, httpRequest, body, resp, hclient, hanswered, hexchange, houtcome⟩

/-! ### Whole runs -/

namespace World

variable {w : World EcosystemSnapshot} {action : Action EcosystemSnapshot}

theorem Traced.wired_step (h : w.Traced errorText (Told d moments))
    (hwired : Wired d moments action) :
    (World.step errorText w action).Traced errorText (Told d moments) := by
  apply h.step
  rintro id collaborator op rfl
  obtain ⟨moment, hmoment, rfl⟩ := hwired
  exact ⟨moment, hmoment, w.service, rfl⟩

theorem traced_initial {told : Event (Answer EcosystemSnapshot) → Prop} :
    World.Traced errorText told ({} : World EcosystemSnapshot) := by
  intro id task htask
  cases htask

/-- **Completed on the wire.** In every interleaving of the calls of `request_continuity`, whatever
the network answers and however the registry and the trust records change meanwhile: when a call
returns a completed session, one candidate had been ranked first and was found trusted, every
artifact was taken by the gateway of Flux for the peer of its target, and the work was posted by the
client for the URL of the target, the own one where it has none, and answered with a verified
success. -/
theorem completed_handed_over (d : Deployment) (errorText : PyValue → PyValue → String)
    (moments : Set Moment) {actions : List (Action EcosystemSnapshot)}
    (hfresh : Along (step errorText) Fresh {} actions)
    (hwired : ∀ action ∈ actions, Wired d moments action) {continuityId : String}
    {task : Task EcosystemSnapshot}
    (htask : (run (step errorText) {} actions).tasks.get? continuityId = some task)
    {session : ContinuitySession} (hreturned : task.rest = .done (.ok session))
    (hcompleted : session.state = .completed) :
    ∃ handover, VerifiedBy d errorText moments continuityId task.request handover := by
  have hinv : (run (step errorText) {} actions).Inv :=
    hfresh.invariant (I := Inv) (fun _ _ h hfresh => h.step hfresh) inv_initial
  have hsteps : Along (step errorText) (fun _ action => Wired d moments action) {} actions :=
    along_of_forall_mem hwired
  have htraced : (run (step errorText) {} actions).Traced errorText (Told d moments) :=
    hsteps.invariant (I := fun w => w.Traced errorText (Told d moments))
      (fun _ _ h hwired => h.wired_step hwired) traced_initial
  have hmeets := (hinv.task htask).meets
  rw [hreturned] at hmeets
  obtain hcancelled | ⟨exc, hrefused, -⟩ | ⟨session', hresult, hfinal⟩ := hmeets
  · cases hcancelled
  · cases hrefused
  · cases hresult
    obtain ⟨-, -, -, -, -, -, hverified⟩ := hfinal.consistent
    exact exists_verifiedBy (hinv.task htask) (htraced continuityId task htask)
      (hverified.mp hcompleted)

end World

/-! ### A laptop that confirms -/

def laptop : Peer where
  nodeId := "b"
  nodeName := .str "laptop"
  address := "10.0.0.2"
  port := .int 9000
  protocolVersion := .str "0.2.0"
  discoveredAt := .epoch
  lastSeen := .epoch
  metadata := .dict [("zarya_url", .str "http://10.0.0.2:8765/ecosystem/v1")]

def homeDeployment : Deployment :=
  ⟨Eip1.localClient, FluxGateway.localGateway, Eip1.plainTexts, id, none, .unused⟩

def atHome : Moment where
  runtime :=
    { ecosystemRegistry := run (EcosystemDiscoveryService.step ⟨"a", "desk", "0.2.0"⟩) .empty
        [.localNode .epoch {}, .udpPeer laptop]
      trustService := .trusting (PySet.empty.add "b")
      zaryaProvider := { isConnected := false } }
  fluxConnected := true
  now := .epoch
  network httpRequest :=
    if httpRequest.url = "http://10.0.0.2:8765/ecosystem/v1/work/continue" then
      .answered (encodeUtf8 "\x7b\"outcome\": \"VERIFIED_SUCCESS\"\x7d")
    else if httpRequest.url = "http://127.0.0.1:9100/flux/v1/transfer" then
      .answered (encodeUtf8 "\x7b\"transfer_id\": \"t\", \"status\": \"CREATED\"\x7d")
    else .urlError "timed out"

def draftRequest : ContinuityRequest where
  sourceDeviceId := "a"
  workId := "draft"
  portableWork := Dict.empty.set "step" (.int 2)
  artifactPaths := ["/home/draft.odt"]

def draftActions : List (Action EcosystemSnapshot) :=
  .request "c" draftRequest :: List.replicate 20 (.resume "c" (atHome.collaborator homeDeployment))

def returnedState (task : Task EcosystemSnapshot) : Option ContinuityState :=
  match task.rest with
  | .done (.ok session) => some session.state
  | _ => none

theorem draft_completed :
    ((run (World.step fun _ _ => "") {} draftActions).tasks.get? "c").bind returnedState
      = some .completed := by
  decide +kernel

theorem exists_completed {tasks : Dict (Task EcosystemSnapshot)} {id : String}
    (h : (tasks.get? id).bind returnedState = some .completed) :
    ∃ task session, tasks.get? id = some task ∧ task.rest = .done (.ok session)
      ∧ session.state = .completed := by
  obtain ⟨task, htask, hstate⟩ := Option.bind_eq_some_iff.mp h
  rw [returnedState] at hstate
  split at hstate
  · rename_i session hrest
    exact ⟨task, session, htask, hrest, Option.some.inj hstate⟩
  · cases hstate

/-- The laptop takes the draft and the work on it. -/
theorem completed_handed_over_laptop : ∃ task handover,
    (run (World.step fun _ _ => "") {} draftActions).tasks.get? "c" = some task
      ∧ VerifiedBy homeDeployment (fun _ _ => "") {atHome} "c" task.request handover := by
  have hfresh : Along (World.step fun _ _ => "") World.Fresh ({} : World EcosystemSnapshot)
      draftActions := by
    refine ⟨⟨by simp, rfl⟩, along_of_forall fun action hmem w => ?_⟩
    rw [List.eq_of_mem_replicate hmem]
    trivial
  have hwired : ∀ action ∈ draftActions, Wired homeDeployment {atHome} action := by
    simp only [draftActions, List.mem_cons, List.mem_replicate]
    rintro _ (rfl | ⟨-, rfl⟩)
    · trivial
    · exact ⟨atHome, rfl, rfl⟩
  obtain ⟨task, session, htask, hreturned, hcompleted⟩ := exists_completed draft_completed
  obtain ⟨handover, hverifiedBy⟩ :=
    World.completed_handed_over homeDeployment (fun _ _ => "")
      {atHome} hfresh hwired htask hreturned hcompleted
  exact ⟨task, handover, htask, hverifiedBy⟩

end Continuity

end Shyam
