import Shyam.Proof.LocalStart

/-!
# Readiness and routing

The tracker and the registries agree as long as a component that was registered stays available, and
one that appears is available. Otherwise the entry stays as it was registered, whatever the tracker
reports.
-/

namespace Shyam

open Python Fallible Transition Navigation

namespace Sovereign

variable {db : CharacterDatabase}

/-! ### What is listed -/

namespace Contract

variable {σ γ : Type} {component : Component σ γ} {contract : Contract db component} {provider : σ}
  {acc : ProviderMap} {registries : Registries} {tracked : Tracked σ}

theorem described_of_offer {v : Offer} (h : contract.offer provider = some v) :
    contract.described provider = v.1 := by
  rw [described, h]
  rfl

theorem get?_listed_of_ne (hsettled : contract.Settled provider) {id : String}
    (hid : id ≠ component.providerId) (now : DateTime) :
    (contract.listed now provider acc).entries.get? id = acc.entries.get? id := by
  rw [listed]
  split_ifs with hconnected
  · obtain ⟨v, hoffer, hgenuine⟩ := hsettled hconnected
    rw [ProviderMap.putMissing, contract.described_of_offer hoffer]
    split_ifs
    · rfl
    · rw [ProviderMap.put, Dict.get?_set, DiscoveredProvider.fromProvider]
      exact if_neg (hgenuine.providerId ▸ hid)
  · rfl

/-- What would be listed is registered already. -/
theorem get?_listed_self (hsettled : contract.Settled provider)
    (hlisted : ∀ v, contract.offer provider = some v →
      (acc.entries.get? component.providerId).isSome)
    (now : DateTime) :
    (contract.listed now provider acc).entries.get? component.providerId
      = acc.entries.get? component.providerId := by
  rw [listed]
  split_ifs with hconnected
  · obtain ⟨v, hoffer, hgenuine⟩ := hsettled hconnected
    have hpresent := hlisted v hoffer
    rw [contract.described_of_offer hoffer, LocalComponents.putMissing_eq_self]
    rw [DiscoveredProvider.fromProvider]
    dsimp only
    rw [hgenuine.providerId]
    exact hpresent
  · rfl

/-! ### One round for one component -/

theorem Agrees.available_iff (h : contract.Agrees tracked registries) {entry : Provider}
    (hentry : registries.providers.get? component.providerId = some entry) :
    entry.availability = .available ↔ tracked.snapshot.state = .ready := by
  constructor
  · intro havailable
    by_contra hstate
    obtain hdown | ⟨hregistered, -⟩ := h.dormant hstate entry hentry
    · rw [havailable] at hdown
      cases hdown
    · rw [havailable] at hregistered
      cases hregistered
  · intro hready
    obtain ⟨-, entry', hentry', havailable⟩ := h.ready hready
    rw [hentry] at hentry'
    cases hentry'
    exact havailable

/-- Nothing is selected of a dormant entry. -/
theorem not_dormant_of_eligible {constraints : NavigationConstraints}
    {now : DateTime} {entry : Provider} {node : DiscoveredNode} {cap : DiscoveredCapability}
    (hmem : cap ∈ (registries.discovered now entry).capabilities)
    (hrejection : rejection constraints (.of node (registries.discovered now entry) cap) = none) :
    ¬Dormant (some entry) := by
  intro hdormant
  obtain hdown | ⟨-, hnone⟩ := hdormant entry rfl
  · have hstatus : (Candidate.of node (registries.discovered now entry) cap).providerStatus
      = .unavailable := hdown
    rw [rejection] at hrejection
    split_ifs at hrejection
  · rw [Registries.capabilities_discovered, hnone] at hmem
    exact List.not_mem_nil hmem

end Contract

/-! ### The node -/

namespace NodeComponents

variable {self : NodeComponents} {answers : GatewayAnswers} {identity : LocalIdentity}

/-- The tracker says of each component what its entry says. -/
def ReadinessMatches (self : NodeComponents) : Prop :=
  (self.zaryaEnabled = true → ∀ entry,
    self.registries.providers.get? ZaryaReport.providerIdZarya = some entry →
      (entry.availability = .available ↔ self.zarya.snapshot.state = .ready))
    ∧ (self.fluxEnabled = true → ∀ entry,
      self.registries.providers.get? FluxReport.providerIdFlux = some entry →
      (entry.availability = .available ↔ self.flux.snapshot.state = .ready))

/-- What the tracker calls unavailable, failed or starting. -/
def NotReady (state : ComponentState) : Prop :=
  state = .unavailable ∨ state = .failed ∨ state = .starting

/-- No navigation in the next snapshot goes to a component of this node that is not ready. -/
def NeverMisroutes (db : CharacterDatabase) (identity : LocalIdentity)
    (self : NodeComponents) : Prop :=
  ∀ now answer registry snapshot registry',
    self.sources.discover db identity now answer registry = .ok (snapshot, registry') →
      ∀ request c, (navigate request snapshot).selected = some c → c.nodeId = identity.nodeId →
        (self.zaryaEnabled = true → c.providerId = ZaryaReport.providerIdZarya →
            ¬NotReady self.zarya.snapshot.state)
          ∧ (self.fluxEnabled = true → c.providerId = FluxReport.providerIdFlux →
            ¬NotReady self.flux.snapshot.state)

/-- The tracker and the registries agree on each component. -/
structure Aligned (db : CharacterDatabase) (node : NodeComponents) : Prop where
  zarya : node.zaryaEnabled = true → (ZaryaProvider.contract db).Agrees node.zarya node.registries
  flux : node.fluxEnabled = true → (FluxProvider.contract db).Agrees node.flux node.registries
  zaryaSettled : (ZaryaProvider.contract db).Settled node.zarya.provider
  fluxSettled : (FluxProvider.contract db).Settled node.flux.provider

theorem Aligned.readinessMatches (h : self.Aligned db) : self.ReadinessMatches :=
  ⟨fun henabled _ hentry => (h.zarya henabled).available_iff hentry,
    fun henabled _ hentry => (h.flux henabled).available_iff hentry⟩

theorem Aligned.get?_listed_zarya (h : self.Aligned db) (hpresentable : self.sources.Presentable db)
    (henabled : self.zaryaEnabled = true) (now : DateTime) :
    (self.sources.listed db now).entries.get? ZaryaReport.providerIdZarya
      = (self.registries.providers.get? ZaryaReport.providerIdZarya).map
        (self.registries.discovered now) := by
  rw [LocalSources.listed]
  refine (Contract.get?_listed_of_ne h.fluxSettled providerIdZarya_ne_flux now).trans ?_
  refine (Contract.get?_listed_self h.zaryaSettled (fun v hv => ?_) now).trans
    (Registries.get?_listed _ _ _)
  rw [Registries.get?_listed, Option.isSome_map]
  exact (h.zarya henabled).listed v hv (hpresentable.zarya v hv)

theorem Aligned.get?_listed_flux (h : self.Aligned db) (hpresentable : self.sources.Presentable db)
    (henabled : self.fluxEnabled = true) (now : DateTime) :
    (self.sources.listed db now).entries.get? FluxReport.providerIdFlux
      = (self.registries.providers.get? FluxReport.providerIdFlux).map
        (self.registries.discovered now) := by
  have hinner : ((ZaryaProvider.contract db).listed now self.zarya.provider
      (self.registries.listed now)).entries.get? FluxReport.providerIdFlux
        = (self.registries.providers.get? FluxReport.providerIdFlux).map
          (self.registries.discovered now) :=
    (Contract.get?_listed_of_ne h.zaryaSettled providerIdZarya_ne_flux.symm now).trans
      (Registries.get?_listed _ _ _)
  rw [LocalSources.listed]
  refine (Contract.get?_listed_self h.fluxSettled (fun v hv => ?_) now).trans hinner
  refine (congrArg Option.isSome hinner).trans ?_
  rw [Option.isSome_map]
  exact (h.flux henabled).listed v hv (hpresentable.flux v hv)

/-- A selected candidate of the local node is one of its entries. -/
theorem not_dormant_of_selected (hid : IsUuidText identity.nodeId) {now : DateTime}
    {answer : EcosystemDiscoveryService.GatewayAnswer} {registry : EcosystemRegistry}
    {request : NavigationRequest} {c : Candidate}
    (hselected :
      (navigate request ((self.sources.discovered db identity now answer registry).createSnapshot
      identity.nodeId)).selected = some c)
    (hlocal : c.nodeId = identity.nodeId)
    (hlisted : (self.sources.listed db now).entries.get? c.providerId
      = (self.registries.providers.get? c.providerId).map (self.registries.discovered now)) :
    ¬Contract.Dormant (self.registries.providers.get? c.providerId) := by
  obtain ⟨hmem, hrejection⟩ := mem_eligible.mp (rankedFirst_of_selected hselected).1
  obtain ⟨node, provider, cap, hnode, hprovider, hcap, -, rfl⟩ := mem_discoverCandidates.mp hmem
  have hsame : node.nodeId = identity.nodeId := hlocal
  rw [hsame, LocalSources.getNode_discovered hid] at hnode
  cases hnode
  have hentry := hprovider.symm.trans hlisted
  change some provider = Option.map _ (self.registries.providers.get? provider.providerId) at hentry
  change ¬Contract.Dormant (self.registries.providers.get? provider.providerId)
  cases hget : self.registries.providers.get? provider.providerId with
  | none =>
      rw [hget] at hentry
      cases hentry
  | some entry =>
      rw [hget] at hentry
      cases hentry
      exact Contract.not_dormant_of_eligible hcap hrejection

theorem Aligned.neverMisroutes (h : self.Aligned db) (hid : IsUuidText identity.nodeId) :
    self.NeverMisroutes db identity := by
  have hready {state : ComponentState} (hstate : state = .ready) : ¬NotReady state := by
    rw [hstate, NotReady]
    decide
  intro now answer registry snapshot registry' hdiscover request c hselected hlocal
  obtain ⟨hpresentable, houtcome⟩ := LocalSources.discover_eq_ok_iff.mp hdiscover
  cases houtcome
  refine ⟨fun henabled hprovider => hready ?_, fun henabled hprovider => hready ?_⟩
  · by_contra hstate
    have hlisted := h.get?_listed_zarya hpresentable henabled now
    rw [← hprovider] at hlisted
    have hdormant := (h.zarya henabled).dormant hstate
    exact not_dormant_of_selected hid hselected hlocal hlisted (hprovider ▸ hdormant)
  · by_contra hstate
    have hlisted := h.get?_listed_flux hpresentable henabled now
    rw [← hprovider] at hlisted
    have hdormant := (h.flux henabled).dormant hstate
    exact not_dormant_of_selected hid hselected hlocal hlisted (hprovider ▸ hdormant)

/-! ### One round -/

/-- Each component that is evaluated is steady; Flux is skipped where Zarya becomes ready and is
refused. -/
structure SteadyRound (db : CharacterDatabase) (node : NodeComponents)
    (answers : GatewayAnswers) : Prop where
  zarya : node.zaryaEnabled = true →
    (ZaryaProvider.contract db).Steady answers.zarya node.zarya.provider
    (node.registries.providers.get? ZaryaReport.providerIdZarya)
  flux : node.fluxEnabled = true →
    ¬(node.zaryaEnabled = true ∧ (ZaryaProvider.contract db).Refuses answers.zarya node.zarya) →
      (FluxProvider.contract db).Steady answers.flux node.flux.provider
        (node.registries.providers.get? FluxReport.providerIdFlux)

/-- Before the first round, nothing needs to be dormant yet. -/
structure Primed (db : CharacterDatabase) (node : NodeComponents) : Prop where
  zarya : node.zaryaEnabled = true → (ZaryaProvider.contract db).Prepared node.zarya node.registries
  flux : node.fluxEnabled = true → (FluxProvider.contract db).Prepared node.flux node.registries
  zaryaSettled : (ZaryaProvider.contract db).Settled node.zarya.provider
  fluxSettled : (FluxProvider.contract db).Settled node.flux.provider

theorem Aligned.primed (h : self.Aligned db) : self.Primed db where
  zarya henabled := (h.zarya henabled).toPrepared
  flux henabled := (h.flux henabled).toPrepared
  zaryaSettled := h.zaryaSettled
  fluxSettled := h.fluxSettled

/-- The evaluation of Zarya, which leaves the entry of Flux alone. -/
theorem Primed.evaluateZarya (h : self.Primed db) (hsteady : SteadyRound db self answers) :
    ∃ zarya registries, after self (NodeComponents.evaluateZarya db answers.zarya)
        = { self with zarya, registries }
      ∧ (self.zaryaEnabled = true → (ZaryaProvider.contract db).Agrees zarya registries)
      ∧ (ZaryaProvider.contract db).Settled zarya.provider
      ∧ registries.providers.get? FluxReport.providerIdFlux
        = self.registries.providers.get? FluxReport.providerIdFlux := by
  rw [after, NodeComponents.evaluateZarya]
  by_cases henabled : self.zaryaEnabled = true
  · have hagrees := (h.zarya henabled).evaluate (hsteady.zarya henabled)
    have hadmits :=
      (ZaryaProvider.contract db).admits_evaluate h.zaryaSettled answers.zarya self.registries
    rw [if_pos henabled]
    exact ⟨_, _, rfl, fun _ => hagrees, hagrees.settled,
      hadmits.get?_of_ne providerIdZarya_ne_flux.symm⟩
  · rw [if_neg henabled]
    exact ⟨self.zarya, self.registries, rfl, fun h => absurd h henabled, h.zaryaSettled, rfl⟩

theorem Primed.evaluateFlux (h : self.Primed db)
    (hzarya : self.zaryaEnabled = true →
      (ZaryaProvider.contract db).Agrees self.zarya self.registries)
    (hsteady : self.fluxEnabled = true →
      (FluxProvider.contract db).Steady answers.flux self.flux.provider
      (self.registries.providers.get? FluxReport.providerIdFlux)) :
    (after self (NodeComponents.evaluateFlux db answers.flux)).Aligned db := by
  rw [after, NodeComponents.evaluateFlux]
  by_cases henabled : self.fluxEnabled = true
  · have hagrees := (h.flux henabled).evaluate (hsteady henabled)
    have hadmits :=
      (FluxProvider.contract db).admits_evaluate h.fluxSettled answers.flux self.registries
    rw [if_pos henabled]
    exact ⟨fun henabled =>
      (hzarya henabled).of_providers (hadmits.get?_of_ne providerIdZarya_ne_flux), fun _ => hagrees,
      h.zaryaSettled, hagrees.settled⟩
  · rw [if_neg henabled]
    exact ⟨hzarya, fun h => absurd h henabled, h.zaryaSettled, h.fluxSettled⟩

/-- A round aligns the components; where Flux is skipped, it has to be aligned before. -/
theorem Primed.pollAllComponents (h : self.Primed db) (hsteady : SteadyRound db self answers)
    (hskipped : self.zaryaEnabled = true →
      (ZaryaProvider.contract db).Refuses answers.zarya self.zarya →
      self.fluxEnabled = true → (FluxProvider.contract db).Agrees self.flux self.registries) :
    (after self (NodeComponents.pollAllComponents db answers)).Aligned db := by
  obtain ⟨zarya, registries, hafter, hzarya, hsettled, hentry⟩ := h.evaluateZarya hsteady
  rcases passes_or_error self (NodeComponents.evaluateZarya db answers.zarya)
    with hpasses | ⟨fault, herror⟩
  · have hevaluated : ¬(self.zaryaEnabled = true
      ∧ (ZaryaProvider.contract db).Refuses answers.zarya self.zarya) :=
      fun hrefused => (zaryaPlace db).not_refuses_of_passes self h.zaryaSettled hpasses
        hrefused.1 hrefused.2
    have hprimed : Primed db { self with zarya, registries } :=
      ⟨fun henabled => (hzarya henabled).toPrepared,
        fun henabled => (h.flux henabled).of_providers hentry, hsettled, h.fluxSettled⟩
    have haligned : (after { self with zarya, registries }
        (NodeComponents.evaluateFlux db answers.flux)).Aligned db := by
      refine hprimed.evaluateFlux hzarya fun henabled => ?_
      rw [hentry]
      exact hsteady.flux henabled hevaluated
    rw [after, NodeComponents.pollAllComponents, inOrder_cons_of_passes hpasses, hafter]
    rcases passes_or_error { self with zarya, registries }
      (NodeComponents.evaluateFlux db answers.flux) with hpasses | ⟨fault, herror⟩
    · rw [inOrder_cons_of_passes hpasses]
      exact ⟨haligned.zarya, haligned.flux, haligned.zaryaSettled, haligned.fluxSettled⟩
    · rw [inOrder_cons_of_error herror]
      exact haligned
  · have henabled : self.zaryaEnabled = true := by
      by_contra hdisabled
      rw [NodeComponents.evaluateZarya, if_neg hdisabled] at herror
      cases herror
    have hrefuses : (ZaryaProvider.contract db).Refuses answers.zarya self.zarya := by
      by_contra hrefuses
      rw [NodeComponents.evaluateZarya, if_pos henabled] at herror
      have hok :=
        ((ZaryaProvider.contract db).evaluate_eq_ok_iff h.zaryaSettled self.registries).mpr hrefuses
      exact absurd (hok.symm.trans herror) (by simp)
    rw [after, NodeComponents.pollAllComponents, inOrder_cons_of_error herror, hafter]
    exact ⟨hzarya, fun hflux => (hskipped henabled hrefuses hflux).of_providers hentry,
      hsettled, h.fluxSettled⟩

/-! ### Rounds after a start -/

theorem Aligned.round (h : self.Aligned db) (hsteady : SteadyRound db self answers) :
    (self.round db answers).Aligned db :=
  h.primed.pollAllComponents hsteady fun _ _ henabled => h.flux henabled

variable {surroundings : Surroundings} {zaryaEnabled fluxEnabled : Bool}

theorem faults_of_initialization (h : Passes self (initialization db surroundings))
    (stage : LocalStage) :
    surroundings.faults stage = none := by
  have hlocal {node : NodeComponents} {stage : LocalStage}
    {effect : NodeComponents → NodeComponents}
      (h : Passes node (locally surroundings stage effect)) : surroundings.faults stage = none := by
    cases hfault : surroundings.faults stage with
    | none => rfl
    | some exc =>
        rw [Passes, locally, hfault] at h
        cases h
  obtain ⟨hdata, hidentity, hkeypair, htrust, hself, hsync, hbootstrap, hcontinuity, hevent,
    hinspect, hfabric, -, -, hecosystem, -, hsubscriptions, hcontext, hdiscovery,
    -⟩ := passes_inOrder_iff.mp h
  cases stage with
  | dataDirectory => exact hlocal hdata
  | identity => exact hlocal hidentity
  | keypair => exact hlocal hkeypair
  | trust => exact hlocal htrust
  | selfTrust => exact hlocal hself
  | syncService => exact hlocal hsync
  | bootstrapService => exact hlocal hbootstrap
  | continuityService => exact hlocal hcontinuity
  | identityReadyEvent => exact hlocal hevent
  | inspectCapability => exact hlocal hinspect
  | providerFabric => exact hlocal hfabric
  | ecosystemService => exact hlocal hecosystem
  | subscriptions => exact hlocal hsubscriptions
  | contextService => exact hlocal hcontext
  | discoveryService => exact hlocal hdiscovery

theorem Initialized.primed {before : NodeComponents} (h : Initialized db surroundings before self) :
    self.Primed db := by
  have hzarya : self.zarya.snapshot.state ≠ .ready := by
    rw [h.newZarya]
    decide
  have hflux : self.flux.snapshot.state ≠ .ready := by
    rw [h.newFlux]
    decide
  refine ⟨fun _ => ⟨h.started.zarya.settled, fun hready => absurd hready hzarya, fun v hv _ => ?_⟩,
    fun _ => ⟨h.started.flux.settled, fun hready => absurd hready hflux, fun v hv _ => ?_⟩,
    h.started.zarya.settled, h.started.flux.settled⟩
  · exact h.started.zarya.listed v hv
  · exact h.started.flux.listed v hv

/-- A start that returns has made its first round. -/
theorem aligned_start {call : Runtime.Call Fault}
    (hstart : Passes (.fresh (configured zaryaEnabled fluxEnabled)) (start db call surroundings))
    (hfirst : SteadyRound db
      (after (configured zaryaEnabled fluxEnabled) (initialization db surroundings))
      surroundings.firstRound) :
    (after (.fresh (configured zaryaEnabled fluxEnabled))
      (start db call surroundings)).components.Aligned db := by
  obtain ⟨hinit, htracker⟩ := (Runtime.start_eq_ok_iff call _ _ rfl).mp hstart
  have hfaults := faults_of_initialization hinit
  obtain ⟨hzarya, hflux⟩ := integrable_of_initialization hfaults hinit
  obtain ⟨node, hnode, h⟩ := initialization_of_integrable hfaults hzarya hflux
  have hcomponents :
    (after (.fresh (configured zaryaEnabled fluxEnabled)) (start db call surroundings)).components
      = after { node with node := .ready, polling := true }
          (pollAllComponents db surroundings.firstRound) := by
    have hinit : initialization db surroundings
      (Runtime.fresh (configured zaryaEnabled fluxEnabled)).components
        = (.ok (), node) := hnode
    rw [after, hinit] at htracker
    rw [after, start, Runtime.start_of_started rfl (by rw [hinit]) (by rw [hinit]; exact htracker),
      hinit, startTracker_eq h.quiet]
    rfl
  have hprimed : Primed db { node with node := .ready, polling := true } :=
    ⟨h.primed.zarya, h.primed.flux, h.primed.zaryaSettled, h.primed.fluxSettled⟩
  rw [after, hnode] at hfirst
  rw [hcomponents]
  refine hprimed.pollAllComponents ⟨hfirst.zarya, hfirst.flux⟩ fun henabled hrefuses => ?_
  have hstarted : Started db surroundings.fabricInitialized { node with
    node := .ready, polling := true } :=
    ⟨h.started.zarya, h.started.flux, h.started.sound, h.started.filesystem⟩
  have hpasses : Passes { node with node := .ready, polling := true }
      (pollAllComponents db surroundings.firstRound) := by
    rw [after, Runtime.fresh, hnode, Passes, startTracker_eq h.quiet] at htracker
    exact htracker
  exact absurd hrefuses
    ((not_refuses_of_pollAllComponents hstarted (by rw [h.newZarya]; decide) hpasses).1 henabled)

end NodeComponents

open NodeComponents in
/-- **Readiness and routing.** After a start, and after every further round, the tracker and the
registries agree and nothing is routed to a component that is not ready, provided that every round
is steady. -/
theorem routing_follows_readiness (db : CharacterDatabase) (call : Runtime.Call Fault)
    (surroundings : Surroundings) (zaryaEnabled fluxEnabled : Bool)
    (hid : IsUuidText surroundings.identity.nodeId)
    (hstart : Passes (.fresh (configured zaryaEnabled fluxEnabled)) (start db call surroundings))
    (hfirst : SteadyRound db
      (after (configured zaryaEnabled fluxEnabled) (initialization db surroundings))
      surroundings.firstRound)
    (rounds : List GatewayAnswers)
    (hrounds : Along (round db) (SteadyRound db)
      (after (.fresh (configured zaryaEnabled fluxEnabled))
        (start db call surroundings)).components rounds) :
    let node := run (round db)
      (after (.fresh (configured zaryaEnabled fluxEnabled)) (start db call surroundings)).components
        rounds
    node.ReadinessMatches ∧ node.NeverMisroutes db surroundings.identity := by
  have haligned :=
    hrounds.invariant (fun _ _ h hsteady => h.round hsteady) (aligned_start hstart hfirst)
  exact ⟨haligned.readinessMatches, haligned.neverMisroutes hid⟩

/-! ### Two runs -/

def FluxClient.unreachable : FluxClient where
  getIdentity := .error ⟨"FluxConnectionError", "Cannot connect to Flux"⟩
  getStatus := .error ⟨"FluxConnectionError", "Cannot connect to Flux"⟩

open NodeComponents in
/-- A node without Zarya, started with Flux. -/
def withFlux : NodeComponents :=
  (after (.fresh (configured false true)) (start .ascii plainCall (fluxAlone "1.0"))).components

theorem passes_withFlux :
    Passes (.fresh (.configured false true)) (start .ascii plainCall (fluxAlone "1.0")) := by
  rw [Passes]
  rfl

open NodeComponents in
/-- Flux is there all the time. -/
theorem routing_follows_readiness_withFlux :
    ((withFlux.round .ascii ⟨.unreachable, .ofProtocol "1.0"⟩).ReadinessMatches
      ∧ (withFlux.round .ascii ⟨.unreachable, .ofProtocol "1.0"⟩).NeverMisroutes .ascii
        ⟨uuidText 1, "desk", "0.2.0"⟩) := by
  have hsteady : SteadyRound .ascii
    (after (configured false true) (initialization .ascii (fluxAlone "1.0")))
      (fluxAlone "1.0").firstRound :=
    ⟨fun h => (by cases h), fun _ _ => ⟨.inr ⟨_, rfl, rfl⟩, fun h => (by cases h)⟩⟩
  have hsteady' : SteadyRound .ascii withFlux ⟨.unreachable, .ofProtocol "1.0"⟩ :=
    ⟨fun h => (by cases h), fun _ _ => ⟨.inr ⟨_, rfl, rfl⟩, fun h => (by cases h)⟩⟩
  exact routing_follows_readiness .ascii plainCall (fluxAlone "1.0") false true
    ⟨1, rfl⟩ passes_withFlux hsteady
    [⟨.unreachable, .ofProtocol "1.0"⟩] ⟨hsteady', trivial⟩

/-- Flux goes away: the tracker says so, and the entry of Flux stays available. -/
theorem flux_stays_available :
    ¬(withFlux.round .ascii ⟨.unreachable, .unreachable⟩).ReadinessMatches := by
  intro h
  have hstate : (withFlux.round .ascii ⟨.unreachable, .unreachable⟩).flux.snapshot.state = .ready :=
    (h.2 rfl _ rfl).mp rfl
  have hunavailable : (withFlux.round .ascii ⟨.unreachable, .unreachable⟩).flux.snapshot.state
      = .unavailable := by
    rfl
  rw [hunavailable] at hstate
  cases hstate

end Sovereign

end Shyam
