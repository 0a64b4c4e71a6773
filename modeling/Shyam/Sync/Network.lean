import Shyam.Bootstrap.Service
import Shyam.Lib.Register
import Shyam.Sync.Facts

/-!
# A network of synchronization services

Nodes with distinct ids run one service each. An envelope that some node created may be delivered to
any node, at any later time, any number of times, under any trust store, or never. A node may be
re-created with the same id and key but empty memory, and may then run device recovery.

Read through `replica`, one step of the network is one step of the gossip system, so the gossip
system's invariants hold of every run of it.
-/

namespace Shyam

open Python Gossip Transition

/-- The nodes: what a restart keeps. -/
structure Nodes (ι : Type) where
  id : ι → String
  id_injective : Function.Injective id
  keypair : ι → KeyPair
  maxTrackedMessages : ι → Nat

def pairNodes : Nodes Bool where
  id b := if b then "b" else "a"
  id_injective := by decide
  keypair b := if b then ⟨[2]⟩ else ⟨[1]⟩
  maxTrackedMessages _ := 1000

/-- A bump of a counter: its author, its number, and the availability it published. -/
abbrev LocalUpdate := Gossip.Write String String String

/-- The services, every envelope created so far, and the bumps made so far, newest first. No service
reads the last two. -/
structure Net {ι : Type} (nodes : Nodes ι) where
  service : ι → SyncService
  named : ∀ i, (service i).localNodeId = nodes.id i
  sent : List SyncEnvelope
  history : List LocalUpdate

inductive Action (ι : Type) where
  | perform (i : ι) (op : SyncService.Op)
  | createSyncEnvelope (i : ι) (order : SetOrder) (messageType messageId : String)
      (timestamp : DateTime)
  | restart (i : ι)
  | recover (i : ι) (now : DateTime) (requestId : String)

namespace Net

variable {ι : Type} {nodes : Nodes ι}

def fresh (nodes : Nodes ι) : Net nodes where
  service i := .new (nodes.id i) (nodes.keypair i) (nodes.maxTrackedMessages i)
  named _ := rfl
  sent := []
  history := []

variable [DecidableEq ι]

def put (net : Net nodes) (i : ι) (s : SyncService) (hs : s.localNodeId = nodes.id i) : Net nodes :=
  { net with
    service := Function.update net.service i s
    named := fun j => by
      by_cases hj : j = i
      · subst hj
        rwa [Function.update_self]
      · rw [Function.update_of_ne hj]
        exact net.named j }

@[simp] theorem put_service_self (net : Net nodes) (i : ι) (s : SyncService)
    (hs : s.localNodeId = nodes.id i) : (net.put i s hs).service i = s := Function.update_self ..

theorem put_service_of_ne (net : Net nodes) {i j : ι} (hj : j ≠ i) (s : SyncService)
    (hs : s.localNodeId = nodes.id i) : (net.put i s hs).service j = net.service j :=
  Function.update_of_ne hj ..

/-- The bump that a service makes next, publishing `value`. -/
def bump (s : SyncService) (value : String → Option String) : LocalUpdate :=
  { author := s.localNodeId, count := s.getVersion s.localNodeId + 1, value := value }

/-- What an operation adds to the history. -/
def written (s : SyncService) : SyncService.Op → List LocalUpdate
  | .updateLocalFacts _ availability => [bump s (SyncService.valueOf? availability)]
  | .incrementLocalVersion => [bump s fun _ => none]
  | .processIncomingEnvelope _ _ _ => []

/-- `recover_device` with scenario STATE_LOST_IDENTITY_INTACT on a running service, which
succeeds. -/
def recovered (nodeId : String) (s : SyncService) (now : DateTime) (requestId : String) :
    SyncService :=
  let created := Except.error ⟨"IdentityError", "not created in this scenario"⟩
  ((BootstrapService.recoverDevice ⟨some nodeId, some s⟩ now created
    { requestId := requestId, scenario := .stateLostIdentityIntact
      existingNodeId := nodeId }).2.syncService).getD s

@[simp] theorem recovered_eq (nodeId : String) (s : SyncService) (now : DateTime)
    (requestId : String) : recovered nodeId s now requestId = s.incrementLocalVersion.2 := rfl

variable (ed : Ed25519) (codec : RecordCodec)

def step (net : Net nodes) : Action ι → Net nodes
  | .perform i op =>
      { net.put i ((net.service i).perform ed codec op)
          (by rw [SyncService.localNodeId_perform, net.named]) with
        history := written (net.service i) op ++ net.history }
  | .createSyncEnvelope i order messageType messageId timestamp =>
      match (net.service i).createSyncEnvelope ed order messageType messageId timestamp with
      | .ok e => { net with sent := e :: net.sent }
      | .error _ => net
  | .restart i => net.put i ((fresh nodes).service i) ((fresh nodes).named i)
  | .recover i now requestId =>
      { net.put i (recovered (nodes.id i) (net.service i) now requestId)
          (by rw [recovered_eq]; exact net.named i) with
        history := bump (net.service i) (fun _ => none) :: net.history }

/-- An envelope delivered was created before, and a new envelope gets an id of its own. -/
def Allows (net : Net nodes) : Action ι → Prop
  | .perform _ (.processIncomingEnvelope _ _ e) => e ∈ net.sent
  | .createSyncEnvelope _ _ _ messageId _ => ∀ e ∈ net.sent, e.messageId ≠ messageId
  | _ => True

def Durable : Action ι → Prop
  | .restart _ => False
  | _ => True

def Authenticates (net : Net nodes) : Action ι → Prop
  | .perform i (.processIncomingEnvelope now trust e) =>
      SyncService.Accepts ed codec now trust (net.service i) e
  | _ => True

/-- A step of an honest run without restarts. -/
def Admits (net : Net nodes) (a : Action ι) : Prop := net.Allows a ∧ Durable a

/-! ### The gossip system a network implements -/

def system (net : Net nodes) : Gossip.System ι String Fact where
  replica i := (net.service i).replica
  sent := {r | ∃ e ∈ net.sent, r = e.replica}

open Classical in
/-- The event an action amounts to. A delivery that does not merge is none. -/
noncomputable def event (net : Net nodes) : Action ι → Gossip.Event ι String Fact
  | .perform i (.updateLocalFacts capabilities _) => .publish i (factsOf? capabilities)
  | .perform i .incrementLocalVersion => .publish i ∅
  | .perform i (.processIncomingEnvelope now trust e) =>
      if SyncService.Merges ed codec now trust (net.service i) e then .receive i e.replica
      else .idle
  | .createSyncEnvelope i _ _ _ _ => .send i
  | .restart i => .reset i
  | .recover i _ _ => .publish i ∅

variable {ed codec} {net : Net nodes} {i : ι}

@[simp] theorem step_perform_self (op : SyncService.Op) :
    (net.step ed codec (.perform i op)).service i = (net.service i).perform ed codec op :=
  Function.update_self ..

theorem step_perform_of_ne {j : ι} (hj : j ≠ i) (op : SyncService.Op) :
    (net.step ed codec (.perform i op)).service j = net.service j := Function.update_of_ne hj ..

theorem step_perform_sent (op : SyncService.Op) :
    (net.step ed codec (.perform i op)).sent = net.sent := by
  rw [step]
  rfl

theorem step_perform_history (op : SyncService.Op) :
    (net.step ed codec (.perform i op)).history = written (net.service i) op ++ net.history := by
  rw [step]

theorem step_createSyncEnvelope (i : ι) (order : SetOrder) (messageType messageId : String)
    (timestamp : DateTime) :
    net.step ed codec (.createSyncEnvelope i order messageType messageId timestamp)
      = { net with sent := (net.service i).signedEnvelope ed order messageType messageId timestamp
          :: net.sent } := by
  rw [step, SyncService.createSyncEnvelope_eq]

theorem system_put (s : SyncService) (hs : s.localNodeId = nodes.id i) :
    (net.put i s hs).system
      = .mk (Function.update net.system.replica i s.replica) net.system.sent := by
  refine congrArg (System.mk · _) (funext fun j => ?_)
  by_cases hj : j = i
  · subst hj
    simp [put]
  · simp [put, Function.update_of_ne hj, system]

/-- **Refinement.** Every step of the network is the step of the gossip system it amounts to. -/
theorem system_step (net : Net nodes) (a : Action ι) :
    (net.step ed codec a).system = net.system.step nodes.id (net.event ed codec a) := by
  cases a with
  | perform i op =>
      have hnamed : ((net.service i).perform ed codec op).localNodeId = nodes.id i := by
        rw [SyncService.localNodeId_perform, net.named]
      rw [show (net.step ed codec (.perform i op)).system
        = (net.put i ((net.service i).perform ed codec op) hnamed).system from rfl, system_put]
      cases op with
      | updateLocalFacts capabilities availability =>
          rw [SyncService.perform, SyncService.replica_updateLocalFacts, net.named]
          rfl
      | incrementLocalVersion =>
          rw [SyncService.perform, SyncService.replica_incrementLocalVersion, net.named]
          rfl
      | processIncomingEnvelope now trust e =>
          rw [SyncService.perform, event]
          split_ifs with h
          · rw [SyncService.replica_process_of_merges h]
            rfl
          · rw [SyncService.replica_process_of_not_merges h]
            exact congrArg (System.mk · _) (Function.update_eq_self i _)
  | createSyncEnvelope i order messageType messageId timestamp =>
      rw [step_createSyncEnvelope]
      refine congrArg (System.mk _) (Set.ext fun r => ?_)
      simp only [List.exists_mem_cons_iff, Set.mem_ofPred_eq, Set.mem_insert_iff,
        SyncService.replica_signedEnvelope]
      rfl
  | restart i =>
      rw [step, system_put]
      exact congrArg (fun r => System.mk (Function.update net.system.replica i r) net.system.sent)
        (SyncService.replica_new ..)
  | recover i now requestId =>
      have hnamed : (net.service i).incrementLocalVersion.2.localNodeId = nodes.id i := by
        rw [SyncService.localNodeId_incrementLocalVersion, net.named]
      rw [show (net.step ed codec (.recover i now requestId)).system
        = (net.put i (net.service i).incrementLocalVersion.2 hnamed).system from rfl, system_put,
        SyncService.replica_incrementLocalVersion, net.named]
      rfl

omit [DecidableEq ι] in
theorem system_fresh : (fresh nodes).system = Gossip.System.fresh := by
  refine congrArg₂ System.mk (funext fun i => SyncService.replica_new ..) (Set.ext fun r => ?_)
  simp [fresh]

omit [DecidableEq ι] in
theorem allowed_event {a : Action ι} (h : net.Allows a) :
    net.system.Allowed (net.event ed codec a) := by
  cases a with
  | perform i op =>
      cases op with
      | processIncomingEnvelope now trust e =>
          rw [event]
          split_ifs
          · exact ⟨e, h, rfl⟩
          · trivial
      | _ => trivial
  | _ => trivial

omit [DecidableEq ι] in
theorem durable_event {a : Action ι} (h : Durable a) :
    Gossip.System.Durable (net.event ed codec a) := by
  cases a with
  | perform i op =>
      cases op with
      | processIncomingEnvelope now trust e =>
          rw [event]
          split_ifs <;> trivial
      | _ => trivial
  | restart i => exact h.elim
  | _ => trivial

/-! ### Invariants of a run -/

/-- What the gossip system guarantees without restarts. -/
structure Consistent (net : Net nodes) : Prop where
  explained : net.system.Explained
  capped : Gossip.System.Capped nodes.id net.system

omit [DecidableEq ι] in
theorem consistent_fresh : (fresh nodes).Consistent where
  explained := by
    rw [system_fresh]
    exact Gossip.System.explained_fresh
  capped := by
    rw [system_fresh]
    exact Gossip.System.capped_fresh

theorem Consistent.step {a : Action ι} (h : net.Consistent) (hadmits : net.Admits a) :
    (net.step ed codec a).Consistent where
  explained := by
    rw [system_step]
    exact Gossip.System.explained_step h.explained (allowed_event hadmits.1) h.capped.current
  capped := by
    rw [system_step]
    exact Gossip.System.capped_step nodes.id_injective h.capped (allowed_event hadmits.1)
      (durable_event hadmits.2)

/-- Every state of a run without restarts is consistent. -/
theorem consistent_run {actions : List (Action ι)}
    (hrun : Along (step ed codec) Admits (fresh nodes) actions) :
    (run (step ed codec) (fresh nodes) actions).Consistent :=
  hrun.invariant (fun _ _ h hadmits => h.step hadmits) consistent_fresh

end Net

end Shyam
