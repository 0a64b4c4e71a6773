import Shyam.Lib.Run
import Shyam.Providers.Sovereign

/-!
# The protocol of a connected gateway

A provider that is connected has an identity and a status. That the identity speaks the expected
protocol is another matter: the check looks at the first character, it comes after the identity is
cached, and its exception does not take the connection back.
-/

namespace Shyam

open Python Fallible Transition

namespace Sovereign

/-- The text before the first dot. -/
def majorVersion (version : String) : String := String.ofList (version.toList.takeWhile (· ≠ '.'))

inductive FluxCall where
  | connect (client : FluxClient)
  | refreshStatus (client : FluxClient)

namespace FluxProvider

/-- What a call leaves behind, whether it raises or not. -/
def step (self : FluxProvider) : FluxCall → FluxProvider
  | .connect client => (self.connect client).2
  | .refreshStatus client => (self.refreshStatus client).2

/-- The gateway speaks the expected protocol. -/
def Compatible (identity : FluxIdentityResponse) : Prop :=
  majorVersion identity.protocolVersion = majorVersion expectedProtocolVersion

/-- A connected provider has an identity and a status, and both are of a compatible gateway. So is
what its descriptor is built from. -/
structure Speaks (db : CharacterDatabase) (provider : FluxProvider) : Prop where
  connected : provider.isConnected = true →
    ∃ identity status, provider.identity = some identity ∧ provider.statusResp = some status
      ∧ Compatible identity
  descriptor : provider.descriptor db = makeProvider db disconnectedDescriptor
    ∨ ∃ identity status, Compatible identity
      ∧ provider.descriptor db = makeProvider db (fluxReport identity status).mapToShyamProvider

def HasAnswers (self : FluxProvider) : Prop :=
  self.isConnected = true → self.identity.isSome = true ∧ self.statusResp.isSome = true

/-- The check that `connect` makes. -/
def LooksCompatible (identity : FluxIdentityResponse) : Prop :=
  identity.protocolVersion.toList.head? = some '1'

/-- When the gateway of a `connect` is incompatible, the call ends without a connection: there was
none before, or the status raises what is kept. -/
def Admitted (self : FluxProvider) : FluxCall → Prop
  | .connect client => ∀ identity, client.getIdentity = .ok identity → ¬Compatible identity →
      (LooksCompatible identity →
        ∃ exc, client.getStatus = .error exc
          ∧ (exc.cls ∈ fluxClientErrors ∨ self.isConnected = false))
      ∧ (¬LooksCompatible identity → self.isConnected = false)
  | .refreshStatus _ => True

/-! ### What the calls leave behind -/

variable {db : CharacterDatabase} {client : FluxClient} {self : FluxProvider}
  {identity : FluxIdentityResponse}

theorem looksCompatible_of_compatible (h : Compatible identity) : LooksCompatible identity := by
  have hone : majorVersion expectedProtocolVersion = "1" := by decide
  have hmajor := congrArg (fun s : String => s.toList.head?) (h.trans hone)
  simp only [majorVersion, String.toList_ofList] at hmajor
  rw [LooksCompatible]
  cases hversion : identity.protocolVersion.toList with
  | nil =>
      rw [hversion] at hmajor
      cases hmajor
  | cons c cs =>
      rw [hversion, List.takeWhile_cons] at hmajor
      split_ifs at hmajor
      · exact hmajor
      · cases hmajor

theorem isOf_raised (exc : Exc) :
    (Fault.raised exc).isOf fluxClientErrors = decide (exc.cls ∈ fluxClientErrors) := by
  rw [Fault.isOf, List.contains_eq_mem]

theorem step_connect_error {exc : Exc} (h : client.getIdentity = .error exc) :
    step self (.connect client)
      = { self with
        isConnected := if exc.cls ∈ fluxClientErrors then false else self.isConnected } := by
  simp only [step, connect, connectBy, negotiate, inOrder, request, h,
    isOf_raised, decide_eq_true_eq]
  split_ifs
  · rfl
  · rfl

/-- The exception for an incompatible gateway is not kept. -/
theorem step_connect_refused (h : client.getIdentity = .ok identity)
    (hlooks : ¬LooksCompatible identity) :
    step self (.connect client) = { self with identity := some identity } := by
  rw [LooksCompatible] at hlooks
  have hraised : "FluxProtocolError" ∉ fluxClientErrors := by decide
  simp only [step, connect, connectBy, negotiate, inOrder, request, cacheIdentity, h, if_neg hlooks,
    isOf_raised, decide_eq_true_eq, incompatible, if_neg hraised]

theorem step_connect_ok {status : FluxStatusResponse} (h : client.getIdentity = .ok identity)
    (hlooks : LooksCompatible identity) (hstatus : client.getStatus = .ok status) :
    step self (.connect client) = ⟨some identity, some status, true⟩ := by
  rw [LooksCompatible] at hlooks
  simp only [step, connect, connectBy, negotiate, inOrder, request, cacheIdentity, cacheStatus, h,
    if_pos hlooks, hstatus]

theorem step_connect_statusError {exc : Exc} (h : client.getIdentity = .ok identity)
    (hlooks : LooksCompatible identity) (hstatus : client.getStatus = .error exc) :
    step self (.connect client) =
      { self with
        identity := some identity
        isConnected := if exc.cls ∈ fluxClientErrors then false else self.isConnected } := by
  rw [LooksCompatible] at hlooks
  simp only [step, connect, connectBy, negotiate, inOrder, request, cacheIdentity, h, if_pos hlooks,
    hstatus, isOf_raised, decide_eq_true_eq]
  split_ifs
  · rfl
  · rfl

theorem step_refreshStatus (client : FluxClient) (self : FluxProvider) :
    step self (.refreshStatus client) = self
      ∨ (∃ status, self.isConnected = true
        ∧ step self (.refreshStatus client) = { self with statusResp := some status })
      ∨ step self (.refreshStatus client) = { self with isConnected := false } := by
  rw [step, refreshStatus]
  unfold refreshBy
  split_ifs with hconnected
  · cases client.getStatus with
    | ok status => exact Or.inr (Or.inl ⟨status, hconnected, rfl⟩)
    | error exc => exact Or.inr (Or.inr rfl)
  · exact Or.inl rfl

/-- Where `self'` is connected, `self` was, and what was cached is still there. -/
def Continues (self self' : FluxProvider) : Prop :=
  self'.isConnected = true →
    self.isConnected = true ∧ self'.identity = self.identity
      ∧ (self.statusResp.isSome = true → self'.statusResp.isSome = true)

theorem continues_connect_error {exc : Exc} (h : client.getIdentity = .error exc) :
    Continues self (step self (.connect client)) := by
  rw [step_connect_error h]
  intro hconnected
  split_ifs at hconnected
  exact ⟨hconnected, rfl, id⟩

theorem continues_refreshStatus (client : FluxClient) (self : FluxProvider) :
    Continues self (step self (.refreshStatus client)) := by
  intro hconnected
  obtain hsame | ⟨status, hbefore, hnext⟩ | hnext := step_refreshStatus client self
  · rw [hsame] at hconnected ⊢
    exact ⟨hconnected, rfl, id⟩
  · rw [hnext]
    exact ⟨hbefore, rfl, fun _ => rfl⟩
  · rw [hnext] at hconnected
    cases hconnected

theorem HasAnswers.of_continues {self' : FluxProvider} (h : HasAnswers self)
    (hcontinues : Continues self self') :
    HasAnswers self' := by
  intro hconnected
  obtain ⟨hbefore, hidentity, hstatus⟩ := hcontinues hconnected
  rw [hidentity]
  exact ⟨(h hbefore).1, hstatus (h hbefore).2⟩

/-! ### The connection -/

/-- A connected provider has both answers, and its gateway is compatible. -/
def Good (self : FluxProvider) : Prop :=
  self.isConnected = true →
    ∃ identity status, self.identity = some identity ∧ self.statusResp = some status
      ∧ Compatible identity

theorem Good.of_continues {self' : FluxProvider} (h : Good self)
    (hcontinues : Continues self self') : Good self' := by
  intro hconnected
  obtain ⟨hbefore, hsame, hkept⟩ := hcontinues hconnected
  obtain ⟨identity, status, hidentity, hstatus, hcompatible⟩ := h hbefore
  obtain ⟨status', hstatus'⟩ := Option.isSome_iff_exists.mp (hkept (hstatus ▸ rfl))
  exact ⟨identity, status', hsame.trans hidentity, hstatus', hcompatible⟩

theorem speaks_iff : Speaks db self ↔ Good self := by
  constructor
  · intro h
    exact h.connected
  · intro h
    refine ⟨h, ?_⟩
    obtain ⟨cachedIdentity, cachedStatus, isConnected⟩ := self
    cases isConnected with
    | false => exact Or.inl rfl
    | true =>
        obtain ⟨identity, status, hidentity, hstatus, hcompatible⟩ := h rfl
        cases hidentity
        cases hstatus
        exact Or.inr ⟨identity, status, hcompatible, rfl⟩

theorem admitted_connect_iff (h : client.getIdentity = .ok identity) :
    Admitted self (.connect client) ↔ (¬Compatible identity →
      (LooksCompatible identity →
        ∃ exc, client.getStatus = .error exc
          ∧ (exc.cls ∈ fluxClientErrors ∨ self.isConnected = false))
      ∧ (¬LooksCompatible identity → self.isConnected = false)) := by
  rw [Admitted, h]
  simp only [Except.ok.injEq, forall_eq']

/-- A provider that has another identity, and is connected only if it was, is good when that
identity is. -/
theorem good_of_cached (h : Good self) {isConnected : Bool}
    (hstays : isConnected = true → self.isConnected = true) :
    Good ⟨some identity, self.statusResp, isConnected⟩
      ↔ (isConnected = true → Compatible identity) := by
  constructor
  · intro hgood hconnected
    obtain ⟨_, _, hidentity, -, hcompatible⟩ := hgood hconnected
    cases hidentity
    exact hcompatible
  · intro hcompatible hconnected
    obtain ⟨_, status, -, hstatus, -⟩ := h (hstays hconnected)
    exact ⟨identity, status, rfl, hstatus, hcompatible hconnected⟩

/-- The step rule. -/
theorem good_step_iff (call : FluxCall) (h : Good self) :
    Good (step self call) ↔ Admitted self call := by
  cases call with
  | refreshStatus client =>
      exact iff_of_true (h.of_continues (continues_refreshStatus client self)) trivial
  | connect client =>
      cases hidentity : client.getIdentity with
      | error exc =>
          refine iff_of_true (h.of_continues (continues_connect_error hidentity))
            fun identity hok => ?_
          rw [hidentity] at hok
          cases hok
      | ok identity =>
          rw [admitted_connect_iff hidentity]
          by_cases hlooks : LooksCompatible identity
          · cases hstatus : client.getStatus with
            | ok status =>
                rw [step_connect_ok hidentity hlooks hstatus]
                constructor
                · intro hgood hnot
                  obtain ⟨_, _, hcached, -, hcompatible⟩ := hgood rfl
                  cases hcached
                  exact absurd hcompatible hnot
                · intro hadmitted _
                  refine ⟨identity, status, rfl, rfl, ?_⟩
                  by_contra hnot
                  obtain ⟨_, herror, -⟩ := (hadmitted hnot).1 hlooks
                  cases herror
            | error exc =>
                rw [step_connect_statusError hidentity hlooks hstatus]
                rw [good_of_cached h fun hconnected => by split_ifs at hconnected; exact hconnected]
                simp only [Except.error.injEq, exists_eq_left', hlooks, not_true_eq_false,
                  false_imp_iff, and_true, true_imp_iff]
                rw [not_imp_comm]
                refine imp_congr_left ?_
                by_cases hkept : exc.cls ∈ fluxClientErrors
                · simp [hkept]
                · simp [hkept]
          · rw [step_connect_refused hidentity hlooks, good_of_cached h id]
            have hnot : ¬Compatible identity := mt looksCompatible_of_compatible hlooks
            simp only [hnot, hlooks, imp_false, not_false_eq_true, true_imp_iff, false_imp_iff,
              true_and, Bool.not_eq_true]

/-- Both answers are there in any case. -/
theorem hasAnswers_step (call : FluxCall) (h : HasAnswers self) : HasAnswers (step self call) := by
  cases call with
  | refreshStatus client => exact h.of_continues (continues_refreshStatus client self)
  | connect client =>
      cases hidentity : client.getIdentity with
      | error exc => exact h.of_continues (continues_connect_error hidentity)
      | ok identity =>
          by_cases hlooks : LooksCompatible identity
          · cases hstatus : client.getStatus with
            | ok status =>
                rw [step_connect_ok hidentity hlooks hstatus]
                exact fun _ => ⟨rfl, rfl⟩
            | error exc =>
                rw [step_connect_statusError hidentity hlooks hstatus]
                intro hconnected
                split_ifs at hconnected
                exact ⟨rfl, (h hconnected).2⟩
          · rw [step_connect_refused hidentity hlooks]
            exact fun hconnected => ⟨rfl, (h hconnected).2⟩

/-- **The protocol.** Along every sequence of calls a connected provider has an identity and a
status, and they are of a compatible gateway in every state exactly when each `connect` to another
gateway ends without a connection. -/
theorem speaks_iff_admitted (db : CharacterDatabase) (calls : List FluxCall) :
    Always step HasAnswers {} calls
      ∧ (Always step (Speaks db) {} calls ↔ Along step Admitted {} calls) := by
  have hspeaks : Speaks db = Good := funext fun _ => propext speaks_iff
  constructor
  · exact always_of_invariant (fun _ call h => hasAnswers_step call h) (fun _ h => h) calls nofun
  · rw [hspeaks]
    exact always_iff_along (fun _ call => good_step_iff call) nofun

/-! ### Incompatible gateways -/

def gateway (protocolVersion : String) : FluxClient where
  getIdentity := .ok ⟨"peer-1", "1.0.0", protocolVersion⟩
  getStatus := .ok { state := .running }

/-- A gateway of major version ten is taken for a compatible one, and one of version two keeps the
connection of the gateway before it. -/
theorem not_speaks_incompatible :
    ¬Always step (Speaks .ascii) {} [.connect (gateway "10.0")]
      ∧ ¬Always step (Speaks .ascii) {} [.connect (gateway "1.0"), .connect (gateway "2.0")] := by
  constructor
  · intro h
    obtain ⟨identity, status, hidentity, -, hcompatible⟩ := h.last.connected rfl
    cases hidentity
    exact absurd hcompatible (by rw [Compatible]; decide)
  · intro h
    obtain ⟨identity, status, hidentity, -, hcompatible⟩ := h.last.connected rfl
    cases hidentity
    exact absurd hcompatible (by rw [Compatible]; decide)

end FluxProvider

end Sovereign

end Shyam
