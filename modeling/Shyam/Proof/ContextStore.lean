import Shyam.Context.World
import Shyam.Proof.WorkflowOrder

/-!
# The context store follows the runs

What the bus has handled decides what the store holds: an event that starts a run adds its work, one
that ends it removes it, and the activity is a bounded log. A run starts before it ends and starts
once, so its work is there exactly in between, however the runs interleave.
-/

namespace Shyam

open Python Interaction Program Transition WorkflowEngine

/-! ### What an event means -/

def BusEvent.starts (event : BusEvent) : Option String :=
  match event.body with
  | .workflow ⟨workflowId, _, .started _⟩ => some workflowId
  | _ => none

def BusEvent.ends (event : BusEvent) : Option String :=
  match event.body with
  | .workflow ⟨workflowId, _, kind⟩ => if kind.terminal.isSome then some workflowId else none
  | _ => none

/-- The entry of an event that counts as activity. -/
def BusEvent.activity (event : BusEvent) : Option RecentActivityEntry :=
  match event.body with
  | .workflow ⟨workflowId, workflowName, .started stepCount⟩ => some
      { kind := .workflowStarted
        description :=
          "Workflow '" ++ workflowName ++ "' started (" ++ toString stepCount ++ " steps)."
        occurredAt := event.timestamp, relatedWorkflowId := some workflowId }
  | .workflow ⟨workflowId, workflowName, .completed _⟩ => some
      { kind := .workflowCompleted, description := "Workflow '" ++ workflowName ++ "' completed."
        occurredAt := event.timestamp, relatedWorkflowId := some workflowId }
  | .workflow ⟨workflowId, workflowName, .failed _ error⟩ => some
      { kind := .workflowFailed, description :=
          "Workflow '" ++ workflowName ++ "' failed: " ++ error
        occurredAt := event.timestamp, relatedWorkflowId := some workflowId }
  | .workflow ⟨workflowId, workflowName, .cancelled reason⟩ => some
      { kind := .workflowCancelled
        description := "Workflow '" ++ workflowName ++ "' cancelled: " ++ reason
        occurredAt := event.timestamp, relatedWorkflowId := some workflowId }
  | .workflow _ => none
  | .nodeDiscovered node => some
      { kind := .nodeDiscovered, description := "Node '" ++ node.nodeName ++ "' " ++ "discovered."
        occurredAt := event.timestamp, relatedNodeId := some node.nodeId }
  | .nodeUpdated node => some
      { kind := .nodeUpdated, description := "Node '" ++ node.nodeName ++ "' " ++ "updated."
        occurredAt := event.timestamp, relatedNodeId := some node.nodeId }
  | .nodeStale nodeId nodeName => some
      { kind := .nodeStale, description := "Node '" ++ nodeName ++ "' " ++ "went stale."
        occurredAt := event.timestamp, relatedNodeId := some nodeId }
  | .nodeLost nodeId nodeName => some
      { kind := .nodeLost, description := "Node '" ++ nodeName ++ "' " ++ "lost."
        occurredAt := event.timestamp, relatedNodeId := some nodeId }

/-- What the bus has handled of one run. -/
def kindsOf (workflowId : String) (handled : List BusEvent) : List WorkflowEvent.Kind :=
  handled.filterMap fun event => match event.body with
    | .workflow event => if event.workflowId = workflowId then some event.kind else none
    | _ => none

theorem kindsOf_append (workflowId : String) (handled later : List BusEvent) :
    kindsOf workflowId (handled ++ later)
      = kindsOf workflowId handled ++ kindsOf workflowId later :=
  List.filterMap_append

/-! ### What the store does with it -/

namespace EcosystemStateStore

variable {store : EcosystemStateStore} {workflowId : String}

theorem onStepStarted_eq (target : Option NavigationCandidate) :
    store.onStepStarted workflowId target = store
      ∨ ∃ item existing, store.activeWork.get? workflowId = some existing
        ∧ item.workflowId = existing.workflowId
        ∧ store.onStepStarted workflowId target
          = store.setActiveWork (store.activeWork.set workflowId item) := by
  cases target with
  | none => exact Or.inl rfl
  | some target =>
      cases hexisting : store.activeWork.get? workflowId with
      | none => exact Or.inl (by simp [onStepStarted, hexisting])
      | some existing =>
          by_cases htarget : existing.targetNodeId = none
          · refine Or.inr ⟨{ existing with
              targetNodeId := some target.nodeId
              targetProviderId := some target.providerId }, existing, rfl, rfl, ?_⟩
            simp [onStepStarted, hexisting, htarget]
          · exact Or.inl (by simp [onStepStarted, hexisting, htarget])

theorem get?_onWorkflowCompleted (timestamp : DateTime) (workflowName : String)
    (count : ℕ) (id : String) :
    (store.onWorkflowCompleted timestamp workflowId workflowName count).activeWork.get? id
      = if id = workflowId then none else store.activeWork.get? id := by
  rw [onWorkflowCompleted]
  dsimp only [recordActivity, setActiveWork]
  split
  · rw [Dict.get?_erase, Dict.get?_set, Dict.get?_erase]
    split_ifs <;> rfl
  · exact Dict.get?_erase _ _ _

end EcosystemStateStore

namespace EcosystemContextService

def subscribedBus : EventBus EventType ContextHandler :=
  subscriptions.foldl (fun bus entry => bus.subscribe entry.1 entry.2) {}

variable {service : EcosystemContextService} {event : BusEvent} {id : String}

inductive Effect (event : BusEvent) (work : Dict ActiveWorkItem) : Dict ActiveWorkItem → Prop
  | start {workflowId : String} {item : ActiveWorkItem} (hstarts : event.starts = some workflowId)
      (hends : event.ends = none) (hitem : item.workflowId = workflowId) :
      Effect event work (work.set workflowId item)
  | finish {workflowId : String} {work' : Dict ActiveWorkItem} (hstarts : event.starts = none)
      (hends : event.ends = some workflowId)
      (hwork : ∀ id, work'.get? id = if id = workflowId then none else work.get? id) :
      Effect event work work'
  | update {workflowId : String} {item existing : ActiveWorkItem} (hstarts : event.starts = none)
      (hends : event.ends = none) (hexisting : work.get? workflowId = some existing)
      (hitem : item.workflowId = existing.workflowId) :
      Effect event work (work.set workflowId item)
  | keep (hstarts : event.starts = none) (hends : event.ends = none) : Effect event work work

/-- What an event does to the store. -/
structure Handled (event : BusEvent) (store store' : EcosystemStateStore) : Prop where
  maxActivity : store'.maxActivity = store.maxActivity
  activity : store'.activity = event.activity.elim store.activity fun entry =>
    (entry :: store.activity).take store.maxActivity
  effect : Effect event store.activeWork store'.activeWork

theorem handled_publish (hbus : service.bus = subscribedBus) :
    Handled event service.store (service.publish event).store := by
  obtain ⟨timestamp, body⟩ := event
  rw [publish, hbus]
  cases body with
  | workflow event =>
      obtain ⟨workflowId, workflowName, kind⟩ := event
      cases kind with
      | started stepCount => exact ⟨rfl, rfl, .start rfl rfl rfl⟩
      | completed count =>
          exact ⟨rfl, rfl, .finish rfl rfl
            (EcosystemStateStore.get?_onWorkflowCompleted timestamp workflowName count)⟩
      | failed stepId error => exact ⟨rfl, rfl, .finish rfl rfl fun id => Dict.get?_erase _ _ _⟩
      | cancelled reason => exact ⟨rfl, rfl, .finish rfl rfl fun id => Dict.get?_erase _ _ _⟩
      | stepStarted stepId capability target =>
          change Handled _ _ (service.store.onStepStarted workflowId target)
          obtain hsame | ⟨item, existing, hexisting, hitem, hset⟩ :=
            service.store.onStepStarted_eq target
          · rw [hsame]
            exact ⟨rfl, rfl, .keep rfl rfl⟩
          · rw [hset]
            exact ⟨rfl, rfl, .update rfl rfl hexisting hitem⟩
      | _ => exact ⟨rfl, rfl, .keep rfl rfl⟩
  | _ => exact ⟨rfl, rfl, .keep rfl rfl⟩

variable {work work' : Dict ActiveWorkItem}

theorem Effect.mem_keys_iff (h : Effect event work work') (id : String) :
    id ∈ work'.keys ↔ event.starts = some id ∨ id ∈ work.keys ∧ event.ends ≠ some id := by
  rw [Dict.mem_keys_iff, Dict.mem_keys_iff]
  cases h with
  | @start workflowId item hstarts hends hitem =>
      rw [Dict.get?_set, hstarts, hends, Option.some.injEq]
      by_cases hid : id = workflowId
      · simp [hid]
      · simp [hid, Ne.symm hid]
  | @finish workflowId _ hstarts hends hwork =>
      rw [hwork, hstarts, hends]
      by_cases hid : id = workflowId
      · simp [hid]
      · simp [hid, Ne.symm hid]
  | @update workflowId item existing hstarts hends hexisting hitem =>
      rw [Dict.get?_set, hstarts, hends]
      by_cases hid : id = workflowId
      · simp [hid, hexisting]
      · simp [hid]
  | keep hstarts hends => simp [hstarts, hends]

theorem Effect.keyed (h : Effect event work work')
    (hkeyed : ∀ id item, work.get? id = some item → item.workflowId = id) :
    ∀ id item, work'.get? id = some item → item.workflowId = id := by
  intro id item hitem
  cases h with
  | @start workflowId item' hstarts hends hid =>
      rw [Dict.get?_set] at hitem
      split_ifs at hitem with hsame
      · cases hitem
        rw [hid, hsame]
      · exact hkeyed id item hitem
  | @finish workflowId _ hstarts hends hwork =>
      rw [hwork] at hitem
      split_ifs at hitem
      exact hkeyed id item hitem
  | @update workflowId item' existing hstarts hends hexisting hid =>
      rw [Dict.get?_set] at hitem
      split_ifs at hitem with hsame
      · cases hitem
        rw [hid, hsame]
        exact hkeyed workflowId existing hexisting
      · exact hkeyed id item hitem
  | keep hstarts hends => exact hkeyed id item hitem

end EcosystemContextService

/-! ### Runs that go on -/

namespace WorkflowEngine

/-- What is left of a run completes its trace. -/
def Completes (workflow : Workflow) (past : Past)
    (rest : WorkflowEngine.Script WorkflowResult) : Prop :=
  Meets (fun _ _ => True)
    (fun past' result => ∃ runResult,
      result = .ok runResult ∧ RunTrace workflow past' runResult) past
    rest

variable {workflow : Workflow} {past : Past} {rest : WorkflowEngine.Script WorkflowResult} {op : Op}
  {next : Answer op → WorkflowEngine.Script WorkflowResult}

theorem completes_run (workflow : Workflow) : Completes workflow [] (run workflow) := by
  have hyields : Yields (run workflow) (RunTrace workflow) := yields_run
  apply (hyields []).mono
  rintro past' result ⟨trace, runResult, rfl, rfl, htrace⟩
  exact ⟨runResult, rfl, htrace⟩

theorem Completes.step (h : Completes workflow past (.ask op next)) (answer : Answer op) :
    Completes workflow (past ++ [⟨op, answer⟩]) (next answer) := h.2 answer

def someAnswer (_ : Past) : (op : Op) → Answer op
  | .isCancelled => false
  | .reason => ""
  | .publish _ => ()
  | .navigate _ => .ok ⟨none, ""⟩
  | .getExecutor _ => false
  | .execute _ _ => .ok .none
  | .uuid4 => ""

/-- What a run has done so far is in order, since it is the beginning of a complete run. -/
theorem Completes.inOrder (h : Completes workflow past rest) :
    Along announce (InOrder workflow) [] past := by
  obtain ⟨runResult, -, htrace⟩ := h.run someAnswer
  obtain ⟨later, hlater⟩ := past_prefix_run someAnswer past rest
  have horder := htrace.inOrder
  rw [← hlater] at horder
  exact (along_append.mp horder).1

theorem Completes.inOrder_op (h : Completes workflow past (.ask op next)) (answer : Answer op) :
    InOrder workflow (kinds past) ⟨op, answer⟩ := by
  have horder := (along_append.mp (h.step answer).inOrder).2
  rw [run_announce] at horder
  exact horder.1

end WorkflowEngine

/-! ### The world -/

namespace ContextWorld

variable {w : ContextWorld} {maxActivity : ℕ}

/-- What the world keeps. -/
structure Tracks (maxActivity : ℕ) (w : ContextWorld) : Prop where
  bus : w.service.bus = EcosystemContextService.subscribedBus
  maxActivity_eq : w.service.store.maxActivity = maxActivity
  activity : w.service.store.activity
    = ((w.handled.filterMap BusEvent.activity).reverse).take maxActivity
  active : ∀ id, id ∈ w.service.store.activeWork.keys ↔
    (∃ event ∈ w.handled, event.starts = some id) ∧ ∀ event ∈ w.handled, event.ends ≠ some id
  keyed : ∀ id item, w.service.store.activeWork.get? id = some item → item.workflowId = id
  tasks : ∀ id task, w.tasks.get? id = some task →
    task.workflow.workflowId = id ∧ Completes task.workflow task.past task.rest
  events : ∀ id, kindsOf id w.handled
    = ((w.tasks.get? id).map fun task => kinds task.past).getD []

theorem body_of_starts {event : BusEvent} {id : String} (h : event.starts = some id) :
    ∃ name kind, event.body = .workflow ⟨id, name, kind⟩ ∧ kind.isStarted = true := by
  rw [BusEvent.starts] at h
  split at h
  next heq =>
    cases h
    exact ⟨_, _, heq, rfl⟩
  next => cases h

theorem body_of_ends {event : BusEvent} {id : String} (h : event.ends = some id) :
    ∃ name kind, event.body = .workflow ⟨id, name, kind⟩ ∧ kind.terminal.isSome = true := by
  rw [BusEvent.ends] at h
  split at h
  next heq =>
    split_ifs at h with hterminal
    cases h
    exact ⟨_, _, heq, hterminal⟩
  next => cases h

theorem mem_kindsOf {handled : List BusEvent} {event : BusEvent} {id name : String}
    {kind : WorkflowEvent.Kind} (hmem : event ∈ handled)
    (hbody : event.body = .workflow ⟨id, name, kind⟩) :
    kind ∈ kindsOf id handled := by
  rw [kindsOf, List.mem_filterMap]
  exact ⟨event, hmem, by simp [hbody]⟩

theorem exists_of_mem_kindsOf {handled : List BusEvent} {id : String} {kind : WorkflowEvent.Kind}
    (h : kind ∈ kindsOf id handled) :
    ∃ event ∈ handled, ∃ name, event.body = .workflow ⟨id, name, kind⟩ := by
  obtain ⟨event, hmem, hkind⟩ := List.mem_filterMap.mp h
  refine ⟨event, hmem, ?_⟩
  cases hbody : event.body with
  | workflow workflowEvent =>
      rw [hbody] at hkind
      dsimp only at hkind
      split_ifs at hkind with hid
      cases hkind
      exact ⟨workflowEvent.workflowName, by rw [← hid]⟩
  | _ =>
      rw [hbody] at hkind
      cases hkind

theorem take_cons_take {α : Type} (a : α) (l : List α) (m : ℕ) :
    (a :: l.take m).take m = (a :: l).take m := by
  cases m with
  | zero => rfl
  | succ n =>
      rw [List.take_succ_cons, List.take_succ_cons, List.take_take, min_eq_left (Nat.le_succ n)]

/-! ### One step -/

theorem Tracks.activity_handle (h : Tracks maxActivity w) (event : BusEvent) :
    (w.handle event).service.store.activity
      = (((w.handle event).handled.filterMap BusEvent.activity).reverse).take maxActivity := by
  rw [handle]
  dsimp only
  rw [(EcosystemContextService.handled_publish h.bus).activity, h.maxActivity_eq, h.activity,
    List.filterMap_append, List.reverse_append]
  cases hactivity : event.activity with
  | none => simp [hactivity]
  | some entry => simp [hactivity, take_cons_take]

/-- A run is started only when it has not ended. -/
theorem Tracks.active_handle (h : Tracks maxActivity w) {event : BusEvent}
    (hfresh : ∀ id, event.starts = some id → ∀ other ∈ w.handled, other.ends ≠ some id)
    (id : String) :
    id ∈ (w.handle event).service.store.activeWork.keys ↔
      (∃ other ∈ (w.handle event).handled, other.starts = some id)
        ∧ ∀ other ∈ (w.handle event).handled, other.ends ≠ some id := by
  rw [handle]
  dsimp only
  rw [(EcosystemContextService.handled_publish h.bus).effect.mem_keys_iff, h.active,
    List.forall_mem_append, List.forall_mem_singleton]
  have hexists : (∃ other ∈ w.handled ++ [event], other.starts = some id)
      ↔ (∃ other ∈ w.handled, other.starts = some id) ∨ event.starts = some id := by
    simp [or_and_right, exists_or]
  rw [hexists]
  by_cases hstarts : event.starts = some id
  · obtain ⟨name, kind, hbody, hkind⟩ := body_of_starts hstarts
    have hends : event.ends ≠ some id := by
      intro hends
      obtain ⟨name', kind', hbody', hterminal⟩ := body_of_ends hends
      rw [hbody] at hbody'
      cases hbody'
      rw [kind.terminal_of_isStarted hkind] at hterminal
      cases hterminal
    exact iff_of_true (Or.inl hstarts) ⟨Or.inr hstarts, hfresh id hstarts, hends⟩
  · simp [hstarts, and_assoc]

/-- The bus handles an event that is of no run, or the next one of a run. -/
theorem Tracks.handle (h : Tracks maxActivity w) {event : BusEvent} {tasks : Dict WorkflowTask}
    (hfresh : ∀ id, event.starts = some id → ∀ other ∈ w.handled, other.ends ≠ some id)
    (htasks : ∀ id task, tasks.get? id = some task →
      task.workflow.workflowId = id ∧ Completes task.workflow task.past task.rest)
    (hevents : ∀ id, kindsOf id (w.handled ++ [event])
      = ((tasks.get? id).map fun task => kinds task.past).getD []) :
    Tracks maxActivity { w.handle event with tasks := tasks } where
  bus := h.bus
  maxActivity_eq := by
    calc (w.handle event).service.store.maxActivity = w.service.store.maxActivity :=
        (EcosystemContextService.handled_publish h.bus).maxActivity
      _ = maxActivity := h.maxActivity_eq
  activity := h.activity_handle event
  active := h.active_handle hfresh
  keyed := (EcosystemContextService.handled_publish h.bus).effect.keyed h.keyed
  tasks := htasks
  events := hevents

theorem Tracks.setTasks (h : Tracks maxActivity w) {tasks : Dict WorkflowTask}
    (htasks : ∀ id task, tasks.get? id = some task →
      task.workflow.workflowId = id ∧ Completes task.workflow task.past task.rest)
    (hevents : ∀ id, kindsOf id w.handled
      = ((tasks.get? id).map fun task => kinds task.past).getD []) :
    Tracks maxActivity { w with tasks := tasks } :=
  { h with tasks := htasks, events := hevents }

theorem Tracks.run (h : Tracks maxActivity w) (workflow : Workflow)
    (hfresh : w.tasks.get? workflow.workflowId = none) :
    Tracks maxActivity (w.step (.run workflow)) := by
  apply h.setTasks
  · intro id task htask
    rw [Dict.get?_set] at htask
    split_ifs at htask with hid
    · cases htask
      exact ⟨hid.symm, completes_run workflow⟩
    · exact h.tasks id task htask
  · intro id
    rw [h.events, Dict.get?_set]
    split_ifs with hid
    · rw [hid, hfresh]
      rfl
    · rfl

theorem tasks_set {tasks : Dict WorkflowTask} {workflowId : String} {task : WorkflowTask}
    (h : ∀ id task, tasks.get? id = some task →
      task.workflow.workflowId = id ∧ Completes task.workflow task.past task.rest)
    (hid : task.workflow.workflowId = workflowId)
    (hcompletes : Completes task.workflow task.past task.rest) :
    ∀ id task', (tasks.set workflowId task).get? id = some task' →
      task'.workflow.workflowId = id ∧ Completes task'.workflow task'.past task'.rest := by
  intro id task' htask'
  rw [Dict.get?_set] at htask'
  split_ifs at htask' with hsame
  · cases htask'
    exact ⟨hid.trans hsame.symm, hcompletes⟩
  · exact h id task' htask'

theorem kindsOf_workflow (id : String) (handled : List BusEvent) (now : DateTime)
    (event : WorkflowEvent) :
    kindsOf id (handled ++ [⟨now, .workflow event⟩])
      = kindsOf id handled ++ if event.workflowId = id then [event.kind] else [] := by
  rw [kindsOf_append]
  congr 1
  by_cases hid : event.workflowId = id <;> simp [kindsOf, hid]

theorem kindsOf_node (id : String) (handled : List BusEvent) {event : BusEvent}
    (hbody : ∀ workflowEvent, event.body ≠ .workflow workflowEvent) :
    kindsOf id (handled ++ [event]) = kindsOf id handled := by
  rw [kindsOf_append]
  have hnone : kindsOf id [event] = [] := by
    cases hevent : event.body with
    | workflow workflowEvent => exact absurd hevent (hbody workflowEvent)
    | _ => simp [kindsOf, hevent]
  rw [hnone, List.append_nil]

/-- The next operation of a run is a publication: the event is of this run, and if it is its start
nothing of this run was handled before. -/
theorem Tracks.publish (h : Tracks maxActivity w) {id : String} {task : WorkflowTask}
    {event : WorkflowEvent} {next : Unit → WorkflowEngine.Script WorkflowResult}
    (htask : w.tasks.get? id = some task) (hrest : task.rest = .ask (.publish event) next)
    (now : DateTime) :
    Tracks maxActivity ((w.handle ⟨now, .workflow event⟩).setTask id
      { task with past := task.past ++ [⟨.publish event, ()⟩], rest := next () }) := by
  obtain ⟨hid, hcompletes⟩ := h.tasks id task htask
  rw [hrest] at hcompletes
  obtain ⟨hevent, hstart⟩ := hcompletes.inOrder_op () event rfl
  rw [hid] at hevent
  have hpast : kindsOf id w.handled = kinds task.past := by
    rw [h.events, htask, Option.map_some, Option.getD_some]
  apply h.handle
  · intro id' hstarts other hmem hends
    obtain ⟨name, kind, hbody, hkind⟩ := body_of_starts hstarts
    cases hbody
    obtain ⟨name', kind', hbody', -⟩ := body_of_ends hends
    have hseen := mem_kindsOf hmem hbody'
    cases hevent
    rw [hpast, hstart hkind] at hseen
    cases hseen
  · exact tasks_set h.tasks hid (hcompletes.step ())
  · intro id'
    rw [kindsOf_workflow, Dict.get?_set, hevent]
    by_cases hsame : id' = id
    · rw [hsame, if_pos rfl, if_pos rfl, hpast, Option.map_some, Option.getD_some, kinds_append]
      rfl
    · rw [if_neg (Ne.symm hsame), if_neg hsame, List.append_nil, h.events]
      rfl

/-- The next operation of a run is something else, which the bus does not see. -/
theorem Tracks.silent (h : Tracks maxActivity w) {id : String} {task : WorkflowTask} {op : Op}
    {next : Answer op → WorkflowEngine.Script WorkflowResult} (hop : ∀ event, op ≠ .publish event)
    (htask : w.tasks.get? id = some task) (hrest : task.rest = .ask op next) (answer : Answer op) :
    Tracks maxActivity (w.setTask id
      { task with past := task.past ++ [⟨op, answer⟩], rest := next answer }) := by
  obtain ⟨hid, hcompletes⟩ := h.tasks id task htask
  rw [hrest] at hcompletes
  apply h.setTasks
  · exact tasks_set h.tasks hid (hcompletes.step answer)
  · intro id'
    rw [h.events, Dict.get?_set]
    by_cases hsame : id' = id
    · have hkinds : kinds [⟨op, answer⟩] = [] := by
        cases op with
        | publish event => exact absurd rfl (hop event)
        | _ => rfl
      rw [hsame, if_pos rfl, htask, Option.map_some, Option.map_some, Option.getD_some,
        Option.getD_some, kinds_append, hkinds, List.append_nil]
    · rw [if_neg hsame]

theorem Tracks.resume (h : Tracks maxActivity w) (id : String) (now : DateTime)
    (environment : (op : Op) → Answer op) :
    Tracks maxActivity (w.step (.resume id now environment)) := by
  rw [step]
  cases htask : w.tasks.get? id with
  | none => exact h
  | some task =>
      dsimp only
      cases hrest : task.rest with
      | done result => exact h
      | ask op next =>
          cases op with
          | publish event => exact h.publish htask hrest now
          | _ =>
              apply h.silent _ htask hrest
              intro event hop
              cases hop

theorem Tracks.publishNode (h : Tracks maxActivity w) (event : BusEvent) :
    Tracks maxActivity (w.step (.publishNode event)) := by
  rw [step]
  split
  · exact h
  · rename_i hbody
    apply h.handle
    · intro id hstarts
      obtain ⟨name, kind, hworkflow, -⟩ := body_of_starts hstarts
      exact absurd hworkflow (hbody _)
    · exact h.tasks
    · intro id
      rw [kindsOf_node id w.handled hbody, h.events]

theorem Tracks.syncSnapshot (h : Tracks maxActivity w) (snapshot : EcosystemSnapshot) :
    Tracks maxActivity (w.step (.syncSnapshot snapshot)) where
  bus := h.bus
  maxActivity_eq := h.maxActivity_eq
  activity := h.activity
  active := h.active
  keyed := h.keyed
  tasks := h.tasks
  events := h.events

theorem start_service (maxActivity : ℕ) (snapshot : EcosystemSnapshot) :
    (start maxActivity snapshot).service =
      { bus := EcosystemContextService.subscribedBus
        store := EcosystemStateStore.updateDiscovery { maxActivity } snapshot
        subscribed := true } := rfl

theorem tracks_start (maxActivity : ℕ) (snapshot : EcosystemSnapshot) :
    Tracks maxActivity (start maxActivity snapshot) where
  bus := by rw [start_service]
  maxActivity_eq := by
    rw [start_service]
    rfl
  activity := by
    rw [start_service]
    exact List.take_nil.symm
  active id := by
    rw [start_service]
    simp [start, EcosystemStateStore.updateDiscovery, Dict.mem_keys_iff]
  keyed id item h := by
    rw [start_service] at h
    cases h
  tasks id task h := nomatch h
  events id := rfl

/-! ### A whole run -/

theorem tasks_step {id : String} (h : w.tasks.get? id = none) {action : Action}
    (haction : action.started ≠ some id) : (w.step action).tasks.get? id = none := by
  cases action with
  | run workflow =>
      have hid : id ≠ workflow.workflowId := fun hid => haction (by rw [hid, Action.started])
      rw [step, setTask]
      dsimp only
      rw [Dict.get?_set, if_neg hid, h]
  | resume workflowId now environment =>
      rw [step]
      cases htask : w.tasks.get? workflowId with
      | none => exact h
      | some task =>
          have hid : id ≠ workflowId := by
            rintro rfl
            rw [h] at htask
            cases htask
          dsimp only
          cases task.rest with
          | done result => exact h
          | ask op next =>
              have hobserve : (w.observe now op).tasks = w.tasks := by cases op <;> rfl
              change ((w.observe now op).tasks.set workflowId _).get? id = none
              rw [Dict.get?_set, if_neg hid, hobserve, h]
  | publishNode event =>
      rw [step]
      split <;> exact h
  | syncSnapshot snapshot => exact h

theorem Tracks.step (h : Tracks maxActivity w) (action : Action)
    (hfresh : ∀ id, action.started = some id → w.tasks.get? id = none) :
    Tracks maxActivity (w.step action) := by
  cases action with
  | run workflow => exact h.run workflow (hfresh _ rfl)
  | resume workflowId now environment => exact h.resume workflowId now environment
  | publishNode event => exact h.publishNode event
  | syncSnapshot snapshot => exact h.syncSnapshot snapshot

theorem Tracks.run_step (h : Tracks maxActivity w) {actions : List Action}
    (hdistinct : (actions.filterMap Action.started).Nodup)
    (hfresh : ∀ id ∈ actions.filterMap Action.started, w.tasks.get? id = none) :
    Tracks maxActivity (Transition.run ContextWorld.step w actions) := by
  induction actions generalizing w with
  | nil => exact h
  | cons action actions ih =>
      rw [Transition.run_cons]
      cases hstarted : action.started with
      | none =>
          rw [List.filterMap_cons_none hstarted] at hdistinct hfresh
          apply ih (h.step action fun id hid => ?_) hdistinct
          · intro id hid
            exact tasks_step (hfresh id hid) (by simp [hstarted])
          · rw [hstarted] at hid
            cases hid
      | some started =>
          rw [List.filterMap_cons_some hstarted] at hdistinct hfresh
          rw [List.nodup_cons] at hdistinct
          rw [List.forall_mem_cons] at hfresh
          apply ih (h.step action fun id hid => ?_) hdistinct.2
          · intro id hid
            apply tasks_step (hfresh.2 id hid)
            rintro heq
            rw [hstarted, Option.some.injEq] at heq
            exact hdistinct.1 (heq ▸ hid)
          · rw [hstarted, Option.some.injEq] at hid
            exact hid ▸ hfresh.1

/-! ### What the store reports -/

theorem Tracks.workflowIds (h : Tracks maxActivity w) :
    w.state.activeWork.map ActiveWorkItem.workflowId = w.service.store.activeWork.keys.elems := by
  change (w.service.store.activeWork.entries.map Prod.snd).map ActiveWorkItem.workflowId = _
  rw [List.map_map]
  apply List.map_congr_left
  intro entry hentry
  exact h.keyed entry.1 entry.2 (Dict.get?_eq_some_iff.mpr hentry)

/-- Of a run that has returned a terminal event was handled. -/
theorem Tracks.exists_ends (h : Tracks maxActivity w) (hreturned : w.Returned) {id : String}
    {event : BusEvent} (hmem : event ∈ w.handled) (hstarts : event.starts = some id) :
    ∃ other ∈ w.handled, other.ends = some id := by
  obtain ⟨name, kind, hbody, -⟩ := body_of_starts hstarts
  have hseen := mem_kindsOf hmem hbody
  rw [h.events] at hseen
  cases htask : w.tasks.get? id with
  | none =>
      rw [htask] at hseen
      cases hseen
  | some task =>
      obtain ⟨hid, hcompletes⟩ := h.tasks id task htask
      obtain ⟨result, hrest⟩ := hreturned id task htask
      rw [hrest] at hcompletes
      obtain ⟨runResult, -, htrace⟩ := hcompletes
      obtain ⟨terminal, hterminal, hends⟩ := htrace.exists_terminal
      have hhandled : terminal ∈ kindsOf id w.handled := by
        rw [h.events, htask]
        exact hterminal
      obtain ⟨other, hother, name', hbody'⟩ := exists_of_mem_kindsOf hhandled
      exact ⟨other, hother, by simp [BusEvent.ends, hbody', hends]⟩

/-- **The store follows the runs.** After any steps that start runs with different ids, the active
work holds exactly the runs that were started and not ended, each once, and nothing when every run
has returned, and the recent activity is that of the last handled events. -/
theorem state_tracks (maxActivity : ℕ) (snapshot : EcosystemSnapshot) (actions : List Action)
    (hdistinct : (actions.filterMap Action.started).Nodup) :
    let w := Transition.run step (start maxActivity snapshot) actions
    (w.state.activeWork.map ActiveWorkItem.workflowId).Nodup
      ∧ (∀ id, id ∈ w.state.activeWork.map ActiveWorkItem.workflowId ↔
          (∃ event ∈ w.handled, event.starts = some id) ∧ ∀ event ∈ w.handled, event.ends ≠ some id)
      ∧ (w.Returned → w.state.activeWork = [])
      ∧ w.state.recentActivity
        = ((w.handled.filterMap BusEvent.activity).reverse).take maxActivity := by
  intro w
  have h : Tracks maxActivity w :=
    (tracks_start maxActivity snapshot).run_step hdistinct fun _ _ => rfl
  refine ⟨?_, ?_, ?_, h.activity⟩
  · rw [h.workflowIds]
    exact w.service.store.activeWork.nodup
  · intro id
    rw [h.workflowIds]
    exact h.active id
  · intro hreturned
    rw [← List.map_eq_nil_iff, h.workflowIds, List.eq_nil_iff_forall_not_mem]
    intro id hmem
    rw [PySet.mem_elems, h.active] at hmem
    obtain ⟨⟨event, hevent, hstarts⟩, hnone⟩ := hmem
    obtain ⟨other, hother, hends⟩ := h.exists_ends hreturned hevent hstarts
    exact hnone other hother hends

/-- The copy starts, and a node is lost. -/
def copyActions : List Action :=
  [.run copyWorkflow, .resume "wf-1" .epoch (cancelAfterFailure []),
    .resume "wf-1" .epoch (cancelAfterFailure []), .publishNode ⟨.epoch, .nodeLost "node-1" "desk"⟩]

theorem state_tracks_copyActions :
    let w := Transition.run step (start 2 { localNodeId := "node-0", nodes := ∅ }) copyActions
    (copyActions.filterMap Action.started).Nodup
      ∧ (w.state.activeWork.map ActiveWorkItem.workflowId).Nodup
      ∧ "wf-1" ∈ w.state.activeWork.map ActiveWorkItem.workflowId
      ∧ w.state.recentActivity.map RecentActivityEntry.kind = [.nodeLost, .workflowStarted] := by
  intro w
  have hdistinct : (copyActions.filterMap Action.started).Nodup := List.nodup_singleton "wf-1"
  obtain ⟨hnodup, hactive, -, hactivity⟩ :=
    state_tracks 2 { localNodeId := "node-0", nodes := ∅ } copyActions hdistinct
  have hhandled : w.handled = [⟨.epoch, .workflow ⟨"wf-1", "copy", .started 2⟩⟩,
      ⟨.epoch, .nodeLost "node-1" "desk"⟩] := rfl
  refine ⟨hdistinct, hnodup, (hactive "wf-1").mpr ?_, ?_⟩
  · rw [hhandled]
    refine ⟨⟨_, List.mem_cons_self, rfl⟩, ?_⟩
    simp [BusEvent.ends, WorkflowEvent.Kind.terminal]
  · rw [hactivity, hhandled]
    rfl

end ContextWorld

end Shyam
