import Shyam.Proof.Addresses
import Shyam.Proof.DiscoveryExchange
import Shyam.Proof.SurfaceWire

/-!
# From the surface to another host

The runtime of a host whose registry has come from the broadcasts of its network. When the user is
told that the work goes on, and it does not go on here, it has gone to a host that said where: the
artifacts to the peer id and the work to the address that this host has broadcast of itself.
-/

namespace Shyam

open Python Broadcast Interaction Transition Continuity

/-! ### What a host announces -/

namespace DiscoveryHost

variable (host : DiscoveryHost) (around : Surroundings)

def OffersZarya : Prop := host.settings.zaryaEnabled = true ∧ host.settings.zaryaUrl ≠ ""

def OffersFlux : Prop := host.settings.fluxEnabled = true ∧ host.settings.fluxUrl ≠ ""

instance : Decidable host.OffersZarya := inferInstanceAs (Decidable (_ ∧ _))

instance : Decidable host.OffersFlux := inferInstanceAs (Decidable (_ ∧ _))

/-- Where the host says that its Zarya is. -/
def zaryaUrl : String := resolveLanUrl around.lanIp host.settings.zaryaUrl

/-- The peer that artifacts for the host go to. Without an id of Flux it goes by its node id. -/
def fluxPeerId : String :=
  if host.OffersFlux then (orElse around.fluxPeerId none).getD host.identity.nodeId
  else host.identity.nodeId

variable {host around}

/-- It is somewhere, as long as the host has an address. -/
theorem zaryaUrl_ne_empty (hurl : host.settings.zaryaUrl ≠ "") (hip : around.lanIp ≠ some "") :
    host.zaryaUrl around ≠ "" := by
  unfold zaryaUrl resolveLanUrl
  split_ifs
  · exact hurl
  · cases hlan : around.lanIp with
    | none => exact hurl
    | some lanIp =>
        have hne : lanIp ≠ "" := fun h => hip (hlan.trans (congrArg some h))
        exact replace_ne_empty (replace_ne_empty hurl hne _) hne _

/-- The address of Zarya is announced along with the flag. -/
theorem get?_metadata_of_ne {key : String} (hurl : key ≠ "flux_url")
    (hpeer : key ≠ "flux_peer_id") :
    (host.metadata around).get? key = if host.OffersZarya then
      (((∅ : Dict PyValue).set "zarya_url" (.str (host.zaryaUrl around))).set "has_zarya"
        (.bool true)).get? key
      else none := by
  have hzarya : (if host.settings.zaryaEnabled = true ∧ host.settings.zaryaUrl ≠ "" then
        ((∅ : Dict PyValue).set "zarya_url"
          (.str (resolveLanUrl around.lanIp host.settings.zaryaUrl))).set "has_zarya"
          (.bool true)
      else ∅).get? key = if host.OffersZarya then
      (((∅ : Dict PyValue).set "zarya_url" (.str (host.zaryaUrl around))).set "has_zarya"
        (.bool true)).get? key
      else none := by
    by_cases hoffers : host.OffersZarya
    · rw [if_pos hoffers]
      exact congrArg (Dict.get? · key) (if_pos hoffers)
    · rw [if_neg hoffers]
      exact (congrArg (Dict.get? · key) (if_neg hoffers)).trans (Dict.get?_empty key)
  rw [← hzarya]
  unfold metadata getDiscoveryMetadata
  dsimp only
  generalize (if host.settings.zaryaEnabled = true ∧ host.settings.zaryaUrl ≠ "" then _
    else (∅ : Dict PyValue)) = zarya
  split_ifs
  · split
    · split_ifs
      · rw [Dict.get?_set, if_neg hpeer, Dict.get?_set, if_neg hurl]
      · rw [Dict.get?_set, if_neg hurl]
    · rw [Dict.get?_set, if_neg hurl]
  · rfl

theorem get?_metadata_fluxPeerId : (host.metadata around).get? "flux_peer_id"
    = if host.OffersFlux then (orElse around.fluxPeerId none).map .str else none := by
  have hzarya : (if host.settings.zaryaEnabled = true ∧ host.settings.zaryaUrl ≠ "" then
        ((∅ : Dict PyValue).set "zarya_url"
          (.str (resolveLanUrl around.lanIp host.settings.zaryaUrl))).set "has_zarya"
          (.bool true)
      else ∅).get? "flux_peer_id" = none := by
    split_ifs <;> simp
  unfold metadata getDiscoveryMetadata
  dsimp only
  generalize (if host.settings.zaryaEnabled = true ∧ host.settings.zaryaUrl ≠ "" then _
    else (∅ : Dict PyValue)) = zarya
    at hzarya ⊢
  by_cases hoffers : host.OffersFlux
  · rw [if_pos hoffers]
    have hflux : host.settings.fluxEnabled = true ∧ host.settings.fluxUrl ≠ "" := hoffers
    rw [if_pos hflux]
    cases around.fluxPeerId with
    | none => simp [hzarya, orElse]
    | some peerId => by_cases hempty : peerId = "" <;> simp [hempty, hzarya, orElse]
  · rw [if_neg hoffers]
    have hflux : ¬(host.settings.fluxEnabled = true ∧ host.settings.fluxUrl ≠ "") := hoffers
    rw [if_neg hflux]
    exact hzarya

theorem announcesZarya_metadata :
    EcosystemDiscoveryService.announcesZarya (host.metadata around) = true ↔ host.OffersZarya := by
  rw [EcosystemDiscoveryService.announcesZarya, Dict.getD, Dict.getD,
    get?_metadata_of_ne (by decide) (by decide), get?_metadata_of_ne (by decide) (by decide)]
  by_cases hoffers : host.OffersZarya <;> simp [hoffers, PyValue.truthy]

end DiscoveryHost

/-! ### What is made of it -/

theorem dictOf_entries (d : Dict PyValue) : dictOf d.entries = d :=
  Dict.ext (entries_fieldsOf d.nodup)

/-- Work is offered by the provider that comes with an announcement of Zarya. -/
theorem EcosystemDiscoveryService.continues_udpProviders {peer : Peer} {protocolVersion : String}
    {announced : Dict PyValue} {provider : DiscoveredProvider} {cap : DiscoveredCapability}
    (hprovider : (udpProviders peer protocolVersion announced).entries.get? provider.providerId
      = some provider)
    (hcap : cap ∈ provider.capabilities) (hid : cap.capabilityId = "zarya.work.continue") :
    provider = zaryaProvider peer announced ∧ announcesZarya announced = true := by
  simp only [udpProviders, ProviderMap.get?_put] at hprovider
  split_ifs at hprovider with hpeer hzarya
  · cases hprovider
    rw [peerProvider, List.mem_singleton] at hcap
    rw [hcap, inspectCapability] at hid
    simp at hid
  · rw [ProviderMap.get?_put, ProviderMap.get?_empty] at hprovider
    split_ifs at hprovider
    exact ⟨(Option.some.inj hprovider).symm, hzarya⟩
  · rw [ProviderMap.get?_empty] at hprovider
    cases hprovider

namespace DiscoveredNode

variable {node : DiscoveredNode} {provider : DiscoveredProvider} {cap : DiscoveredCapability}
  {host : DiscoveryHost} {around : Surroundings} {errorText : PyValue → PyValue → String}
  {made : ContinuityTarget}

theorem address_udpMetadata {peer : Peer} {announced : Dict PyValue}
    (hmetadata : node.metadata = EcosystemDiscoveryService.udpMetadata peer announced)
    {key : String} (hkey : key ∉ ["origin", "address", "port"]) :
    node.address key = match announced.get? key with
      | some (.str s) => orElse (some s) none
      | _ => none := by
  have hget : node.metadata.get? key = announced.get? key := by
    simp only [List.mem_cons, List.not_mem_nil, or_false, not_or] at hkey
    rw [hmetadata, EcosystemDiscoveryService.udpMetadata, Dict.get?_update, Dict.get?_set,
      if_neg hkey.2.2, Dict.get?_set, if_neg hkey.2.1, Dict.get?_set, if_neg hkey.1,
      Dict.get?_empty, Option.or_none]
  change (match node.metadata.get? key with
    | some (.str s) => orElse (some s) none
    | _ => none) = _
  rw [hget]

/-- Whoever offers to continue work has announced Zarya, and is met where it said. -/
theorem Presents.addresses (h : node.Presents (host.announced around))
    (hprovider : node.providers.entries.get? provider.providerId = some provider)
    (hcap : cap ∈ provider.capabilities) (hid : cap.capabilityId = "zarya.work.continue")
    (hmade : makeTarget errorText (Navigation.Candidate.of node provider cap).toNavigationCandidate
      = .ok made) :
    host.OffersZarya ∧ peerOf made = host.fluxPeerId around
      ∧ orElse made.zaryaUrl none = orElse (some (host.zaryaUrl around)) none := by
  obtain ⟨peer, fields, -, hfields, hproviders, hmetadata⟩ := h.ingested
  obtain rfl : (host.metadata around).entries = fields := PyValue.dict.inj hfields
  rw [dictOf_entries] at hproviders hmetadata
  rw [hproviders] at hprovider
  obtain ⟨hzarya, hannounces⟩ := EcosystemDiscoveryService.continues_udpProviders hprovider hcap hid
  have hoffers := DiscoveryHost.announcesZarya_metadata.mp hannounces
  obtain ⟨hpeer, hurl⟩ := makeTarget_addresses hmetadata hzarya hmade
  refine ⟨hoffers, hpeer.trans ?_, hurl.trans ?_⟩
  · rw [fluxPeerId, address_udpMetadata hmetadata (by decide),
      DiscoveryHost.get?_metadata_fluxPeerId, h.nodeId, DiscoveryHost.fluxPeerId]
    split_ifs
    · cases hid : orElse around.fluxPeerId none with
      | none => rfl
      | some peerId =>
          have hsame := orElse_orElse around.fluxPeerId
          rw [hid] at hsame
          simp only [Option.map_some, hsame]
          rfl
    · rfl
  · rw [zaryaUrl, address_udpMetadata hmetadata (by decide),
      DiscoveryHost.get?_metadata_of_ne (by decide) (by decide), if_pos hoffers, Dict.get?_set,
      if_neg (by decide), Dict.get?_set, if_pos rfl]

end DiscoveredNode

/-! ### Where the work has gone -/

namespace Surface

section Network

variable {ι : Type} [DecidableEq ι] (rules : DiscoveryRules) (floatRepr : String → String)
  (hosts : ι → DiscoveryHost) (now : DateTime) (fabrics : ι → LocalFabric)

def network (actions : List (LanAction ι Surroundings DateTime DiscoveryTask)) :
    Lan ι UdpWorld Packet :=
  run (Lan.step (discoveryParties rules floatRepr hosts)) (silentNetwork hosts now fabrics) actions

/-- The runtime has the registry that a host has after the run. -/
def OnNetwork (i : ι) (actions : List (LanAction ι Surroundings DateTime DiscoveryTask))
    (moment : Moment) : Prop :=
  moment.runtime.ecosystemRegistry
    = ((network rules floatRepr hosts now fabrics actions).party i).state.registry

/-- The host had broadcast where it is before it was selected, and what it
was sent has gone there. -/
structure GoneTo (i : ι) (d : Deployment) (moments : Set Moment) (continuityId : String)
    (request : ContinuityRequest) (host : DiscoveryHost) (around : Surroundings) : Prop where
  announced : ∃ moment ∈ moments, ∃ actions data,
    OnNetwork rules floatRepr hosts now fabrics i actions moment ∧ host.broadcast around = .ok data
      ∧ (host.address, data) ∈ (network rules floatRepr hosts now fabrics actions).air
  offers : host.OffersZarya
  trusted : ∃ moment ∈ moments, moment.runtime.Trusts d.codec moment.now host.identity.nodeId
  shipped : ∀ artifactPath ∈ request.artifactPaths,
    Shipped d moments (host.fluxPeerId around) artifactPath
  posted : around.lanIp ≠ some "" → ∃ moment ∈ moments, ∃ httpRequest body resp,
    moment.network httpRequest = .answered body
      ∧ httpRequest.url = rstrip '/' (host.zaryaUrl around) ++ "/work/continue"
      ∧ Eip1.Exchange (d.zarya.forTarget d.environ (.target (host.zaryaUrl around))) d.texts
        request.portableWork
        request.sourceDeviceId continuityId resp httpRequest body
      ∧ resp.outcome = .verifiedSuccess

variable {rules floatRepr hosts now fabrics} {i : ι} {d : Deployment} {moments : Set Moment}
  {errorText : PyValue → PyValue → String} {continuityId : String} {request : ContinuityRequest}
  {handover : Handover}

theorem registryTold_of_onNetwork (hrules : DiscoveryHost.Recognized rules hosts) {moment : Moment}
    {actions : List (LanAction ι Surroundings DateTime DiscoveryTask)}
    (h : OnNetwork rules floatRepr hosts now fabrics i actions moment) :
    RegistryTold hosts now fabrics (network rules floatRepr hosts now fabrics actions).air i
      moment.runtime.ecosystemRegistry := by
  have hbacked : Lan.Backed (IsSent hosts) (Honest hosts now fabrics)
      (network rules floatRepr hosts now fabrics actions) :=
    (provable_honest hrules floatRepr now fabrics).run
      ⟨fun _ hpacket => absurd hpacket List.not_mem_nil, honest_start hosts now fabrics⟩ actions
  rw [OnNetwork] at h
  exact h ▸ (hbacked.party i).registry

theorem baseUrl_forTarget (client : Eip1.ZaryaClient) (environ : Option String) (url : String) :
    (client.forTarget environ (.target url)).baseUrl = rstrip '/' url := rfl

theorem url_of_exchange {client : Eip1.ZaryaClient} {texts : Eip1.Texts}
    {portableWork : Dict PyValue} {sourceDeviceId : String} {resp : ContinuationResponse}
    {httpRequest : Eip1.HttpRequest} {body : Bytes}
    (h : Eip1.Exchange client texts portableWork sourceDeviceId continuityId
      resp httpRequest body) :
    httpRequest.url = client.baseUrl ++ "/work/continue" := by
  have hprepared := h.prepared
  rw [Eip1.ZaryaClient.prepare] at hprepared
  by_cases htoken : client.token = ""
  · rw [if_pos ⟨rfl, htoken⟩] at hprepared
    cases hprepared
  · rw [if_neg fun hmissing => htoken hmissing.2] at hprepared
    cases hjson :
      (Eip1.ZaryaClient.continuationBody portableWork sourceDeviceId continuityId).toJson with
    | ok json =>
        simp only [hjson, Except.ok.injEq] at hprepared
        rw [← hprepared]
    | error exc =>
        simp only [hjson] at hprepared
        cases hprepared

/-- What another host was handed has gone where the host had said. -/
theorem exists_goneTo (hrules : DiscoveryHost.Recognized rules hosts)
    (hnetwork : ∀ moment ∈ moments, ∃ actions,
      OnNetwork rules floatRepr hosts now fabrics i actions moment)
    (h : VerifiedBy d errorText moments continuityId request handover)
    (hother : handover.candidate.nodeId ≠ (hosts i).identity.nodeId) :
    ∃ j around, handover.candidate.nodeId = (hosts j).identity.nodeId
      ∧ GoneTo rules floatRepr hosts now fabrics i d moments continuityId request
        (hosts j) around := by
  obtain ⟨moment, hmoment, c, hfirst, hcandidate⟩ := h.ranked
  obtain ⟨actions, honNetwork⟩ := hnetwork moment hmoment
  have htold := registryTold_of_onNetwork hrules honNetwork
  obtain ⟨node, provider, cap, hnode, hprovider, hcap, hid, rfl⟩ :=
    Navigation.mem_discoverCandidates.mp hfirst.mem
  have hnodeId : node.nodeId = handover.candidate.nodeId :=
    congrArg NavigationCandidate.nodeId hcandidate
  obtain ⟨_, ⟨j, around, data, hdata, hair, -, rfl⟩, hsame, hpresents⟩ :=
    htold.others node.nodeId node hnode (hnodeId ▸ hother)
  have hhost : handover.candidate.nodeId = (hosts j).identity.nodeId :=
    hnodeId.symm.trans hsame.symm
  have hmade := h.made
  rw [← hcandidate] at hmade
  obtain ⟨hoffers, hpeer, hurl⟩ := hpresents.addresses hprovider hcap hid hmade
  refine ⟨j, around, hhost, ⟨moment, hmoment, actions, data, honNetwork, hdata, hair⟩, hoffers, ?_,
    fun artifactPath hartifact => ?_, fun hip => ?_⟩
  · obtain ⟨htrusted, moment, hmoment, hrecord⟩ := h.trusted
    exact ⟨moment, hmoment, handover.trustRecord, hhost ▸ hrecord, htrusted⟩
  · rw [← hpeer]
    exact h.shipped artifactPath hartifact
  · obtain ⟨moment, hmoment, zarya, httpRequest, body, resp, hclient, hanswered, hexchange,
      houtcome⟩ := h.exchanged
    have hsome : orElse handover.target.zaryaUrl none = some ((hosts j).zaryaUrl around) := by
      rw [hurl, orElse, if_neg (DiscoveryHost.zaryaUrl_ne_empty hoffers.2 hip)]
    rw [ZaryaProvider.clientFor_of_some hsome] at hclient
    obtain rfl := Except.ok.inj hclient
    have hposted := url_of_exchange hexchange
    rw [baseUrl_forTarget] at hposted
    exact ⟨moment, hmoment, httpRequest, body, resp, hanswered, hposted, hexchange, houtcome⟩

/-- **From the surface to another host.** Whatever packets of the network are lost, repeated or
late, whatever Zarya and Flux answer, and however the requests are interleaved: when the user is
told that the work goes on, it goes on here, or a host that was found trusted had broadcast where it
is, the artifacts have gone to the peer that it named, and the work was posted to the address that
it named and answered with a verified success. -/
theorem success_reaches_announced (rules : DiscoveryRules) (floatRepr : String → String)
    (hosts : ι → DiscoveryHost) (hrules : DiscoveryHost.Recognized rules hosts) (now : DateTime)
    (fabrics : ι → LocalFabric) (i : ι) (d : Deployment) (errorText : PyValue → PyValue → String)
    (moments : Set Moment)
    (hnetwork : ∀ moment ∈ moments, ∃ actions,
      OnNetwork rules floatRepr hosts now fabrics i actions moment)
    {actions : List (Action EcosystemSnapshot)}
    (hfresh : Along (World.step d.lower errorText) World.Fresh {} actions)
    (hwired : ∀ action ∈ actions, Wired d moments action)
    {answer : Option String × InteractionResponse}
    (hanswer : answer ∈ (run (World.step d.lower errorText) {} actions).answers)
    (hcompleted : answer.2.state = .completed) :
    ∃ continuityId task handover, answer.1 = some continuityId
      ∧ (run (World.step d.lower errorText) {} actions).continuity.tasks.get? continuityId
        = some task
      ∧ VerifiedBy d errorText moments continuityId task.request handover
      ∧ (handover.candidate.nodeId = (hosts i).identity.nodeId
        ∨ ∃ j around, handover.candidate.nodeId = (hosts j).identity.nodeId
          ∧ GoneTo rules floatRepr hosts now fabrics i d moments continuityId task.request
            (hosts j) around) := by
  have hinv : (run (World.step d.lower errorText) {} actions).Inv :=
    hfresh.invariant (I := World.Inv) (fun _ _ h hfresh => h.step hfresh) World.inv_initial
  obtain ⟨id, task, hid, htask, hverified⟩ := (hinv.verified answer hanswer).mp hcompleted
  obtain ⟨handover, hverifiedBy⟩ :=
    exists_verifiedBy (hinv.continuity.task htask) (World.traced_run hwired id task htask) hverified
  refine ⟨id, task, handover, hid, htask, hverifiedBy, ?_⟩
  by_cases hlocal : handover.candidate.nodeId = (hosts i).identity.nodeId
  · exact Or.inl hlocal
  · exact Or.inr (exists_goneTo hrules hnetwork hverifiedBy hlocal)

/-! ### A laptop that announces itself -/

def onWifi (_ : Bool) : Surroundings := { lanIp := some "10.0.0.2" }

def onLan : Moment :=
  { atHome with
    runtime :=
      { atHome.runtime with
        ecosystemRegistry := (listen UdpWorld.laptopRules homeHosts onWifi [true] (false, 0, .epoch)
          (UdpWorld.start (homeHosts false).identity .epoch {})).state.registry
        trustService := .trusting (PySet.empty.add (uuidText 2)) } }

/-- The desk has heard the laptop. -/
theorem onNetwork_onLan : OnNetwork UdpWorld.laptopRules id homeHosts .epoch (fun _ => {}) false
    (exchange onWifi [true] [(false, 0, .epoch)]) onLan := by
  choose packet hpacket using fun j => exists_packet id recognized_home j (onWifi j)
  have hsettled := settled_silent homeHosts .epoch (fun _ => {}) onWifi packet [true]
  have hheard :=
    run_hearing recognized_home names_home injective_home hpacket hsettled (false, 0, .epoch)
  rw [OnNetwork, network, exchange, run_append, run_sends hpacket, List.flatMap_singleton]
  refine Eq.trans ?_ (congrArg (fun lan => (Lan.party lan false).state.registry) hheard).symm
  rw [Lan.change]
  dsimp only
  rw [Function.update_self, onLan]
  rfl

theorem success_reaches_announced_laptop :
    ∃ continuityId task handover, some "c" = some continuityId
    ∧ (run (World.step id fun _ _ => "") {} (homeActions onLan)).continuity.tasks.get? continuityId
      = some task
    ∧ VerifiedBy homeDeployment (fun _ _ => "") {onLan} continuityId task.request handover
    ∧ (handover.candidate.nodeId = uuidText 3
      ∨ ∃ j around, handover.candidate.nodeId = (homeHosts j).identity.nodeId
        ∧ GoneTo UdpWorld.laptopRules id homeHosts .epoch (fun _ => {}) false homeDeployment
          {onLan} continuityId
          task.request (homeHosts j) around) := by
  have hnetwork : ∀ moment ∈ ({onLan} : Set Moment),
      ∃ actions,
        OnNetwork UdpWorld.laptopRules id homeHosts .epoch (fun _ => {}) false actions moment := by
    rintro _ rfl
    exact ⟨_, onNetwork_onLan⟩
  have hanswer : (some "c", Presenter.successResponse)
      ∈ (run (World.step id fun _ _ => "") {} (homeActions onLan)).answers := by
    decide +kernel
  exact success_reaches_announced UdpWorld.laptopRules id homeHosts recognized_home .epoch
    (fun _ => {}) false
    homeDeployment (fun _ _ => "") {onLan} hnetwork (fresh_homeActions onLan)
      (wired_homeActions onLan) hanswer rfl

end Network

end Surface

end Shyam
