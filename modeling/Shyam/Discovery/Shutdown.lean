import Shyam.Discovery.Liveness

/-!
# Stopping UDP discovery

Tasks start in the order of their datagrams and get the lock in the order in which they ask for it.
`stop` cancels the two loops and waits for their end; then it closes the transport, and clears the
peers when the lock is its own. Datagrams are heard until the transport is closed, and nobody
cancels the tasks that they start.
-/

namespace Shyam

open Python

/-- Who waits for the lock. -/
inductive Waiter where
  | update (now : DateTime) (a : Announcement)
  | stop

/-- Where the service is between two calls of `start`. It is `stopping` until its loops have ended,
and `leaving` while `stop` waits for the lock. -/
inductive ServicePhase where
  | idle
  | listening
  | stopping
  | leaving
deriving DecidableEq, Repr

/-- The tasks of the world have not started yet. -/
structure ServiceWorld where
  world : UdpWorld := {}
  waiting : List Waiter := []
  phase : ServicePhase := .idle

inductive ServiceAction where
  | start
  | datagram (now : DateTime) (payload : Option PyValue) (remoteIp : String)
  | startTask
  | wake
  | handleEvent
  | releaseLock
  | reap (now : DateTime)
  | announceLost
  | stop
  | loopsEnded

namespace UdpWorld

/-- With the reaper, what it was publishing is cancelled. -/
def cancelLoops (w : UdpWorld) : UdpWorld :=
  { w with
    state := { w.state with lost := [] }
    published := w.published.filter fun event => !event.isLost }

def clearPeers (w : UdpWorld) : UdpWorld := { w with state := { w.state with peers := .empty } }

/-- What has the lock does not look at the tasks. -/
theorem locking_withTasks (rules : DiscoveryRules) (now : DateTime)
    (a : Announcement) (w : UdpWorld) (tasks : List (DateTime × Announcement)) :
    locking rules now a { w with tasks } = { locking rules now a w with tasks } := by
  rw [locking, locking]
  dsimp only
  cases w.state.peers.entries.get? a.nodeId with
  | none =>
      dsimp only
      cases DiscoveryService.newPeer rules now a with
      | none => rfl
      | some peer => rfl
  | some existing =>
      dsimp only
      split_ifs
      · rfl
      · rfl

theorem handleEvent_withTasks (w : UdpWorld) (tasks : List (DateTime × Announcement)) :
    handleEvent { w with tasks } = { handleEvent w with tasks } := by
  obtain ⟨state, _, locked, _ | ⟨event, published⟩, seen⟩ := w
  · rfl
  · rfl

theorem releaseLock_withTasks (w : UdpWorld) (tasks : List (DateTime × Announcement)) :
    releaseLock { w with tasks } = { releaseLock w with tasks } := by
  rw [releaseLock, releaseLock]
  dsimp only
  split_ifs
  · rfl
  · rfl

theorem publishLost_withTasks (w : UdpWorld) (tasks : List (DateTime × Announcement)) :
    publishLost { w with tasks } = { publishLost w with tasks } := by
  obtain ⟨⟨peers, _ | ⟨nodeId, lost⟩, registry⟩, _, locked, published, seen⟩ := w
  · rfl
  · rfl

theorem announceLost_withTasks (w : UdpWorld) (tasks : List (DateTime × Announcement)) :
    announceLost { w with tasks } = { announceLost w with tasks } := by
  rw [announceLost, announceLost, announcing, announcing, publishLost_withTasks]
  dsimp only
  split_ifs
  · rfl
  · rfl

theorem reap_withTasks (rules : DiscoveryRules) (now : DateTime) (w : UdpWorld)
    (tasks : List (DateTime × Announcement)) :
    reap rules now { w with tasks } = { reap rules now w with tasks } := by
  rw [reap, reap, announcing, announcing]
  dsimp only
  split_ifs
  · rfl
  · exact publishLost_withTasks { w with state := DiscoveryService.reap rules now w.state } tasks

theorem updatePeer_zero (rules : DiscoveryRules) {w : UdpWorld} (now : DateTime) (a : Announcement)
    (tasks : List (DateTime × Announcement)) (h : w.locked = false) :
    updatePeer rules 0 { w with tasks := (now, a) :: tasks }
      = { locking rules now a w with tasks } := by
  rw [updatePeer, ← locking_withTasks]
  dsimp only [List.getElem?_cons_zero, List.eraseIdx_cons_zero]
  rw [h]
  rfl

end UdpWorld

namespace ServiceWorld

variable (rules : DiscoveryRules)

/-- A service that is stopping is not started again before it has stopped. -/
def start (s : ServiceWorld) : ServiceWorld :=
  if s.phase = .idle then { s with phase := .listening } else s

def handleDatagram (self : LocalIdentity) (now : DateTime) (payload : Option PyValue)
    (remoteIp : String) (s : ServiceWorld) : ServiceWorld :=
  match s.phase with
  | .listening | .stopping =>
      { s with world := s.world.handleDatagram rules self now payload remoteIp }
  | .idle | .leaving => s

/-- The lock is taken at once when it is free and nobody waits. -/
def contended (s : ServiceWorld) : Bool := s.world.locked || !s.waiting.isEmpty

def startTask (s : ServiceWorld) : ServiceWorld :=
  match s.world.tasks with
  | (now, a) :: tasks =>
      if s.contended then
        { s with
          world := { s.world with tasks := tasks }
          waiting := s.waiting ++ [.update now a] }
      else { s with world := UdpWorld.locking rules now a { s.world with tasks := tasks } }
  | [] => s

/-- The first who waits gets the lock. -/
def wake (s : ServiceWorld) : ServiceWorld :=
  if s.world.locked then s
  else
    match s.waiting with
    | .update now a :: waiting =>
        { s with
          world := UdpWorld.locking rules now a s.world
          waiting := waiting }
    | .stop :: waiting =>
        { world := s.world.clearPeers
          waiting := waiting
          phase := .idle }
    | [] => s

/-- What the reaper does, as long as it is not cancelled. -/
def reaping (action : UdpWorld → UdpWorld) (s : ServiceWorld) : ServiceWorld :=
  if s.phase = .listening then { s with world := action s.world } else s

def stop (s : ServiceWorld) : ServiceWorld :=
  if s.phase = .listening then
    { s with
      world := s.world.cancelLoops
      phase := .stopping }
  else s

/-- The rest of `stop`: the transport is closed, and the lock asked for. -/
def loopsEnded (s : ServiceWorld) : ServiceWorld :=
  if s.phase = .stopping then
    if s.contended then
      { s with
        waiting := s.waiting ++ [.stop]
        phase := .leaving }
    else
      { s with
        world := s.world.clearPeers
        phase := .idle }
  else s

def step (self : LocalIdentity) (s : ServiceWorld) : ServiceAction → ServiceWorld
  | .start => s.start
  | .datagram now payload remoteIp => s.handleDatagram rules self now payload remoteIp
  | .startTask => s.startTask rules
  | .wake => s.wake rules
  | .handleEvent => { s with world := s.world.handleEvent }
  | .releaseLock => { s with world := s.world.releaseLock }
  | .reap now => s.reaping (UdpWorld.reap rules now)
  | .announceLost => s.reaping UdpWorld.announceLost
  | .stop => s.stop
  | .loopsEnded => s.loopsEnded

/-! ### As long as it is not stopped -/

def updatesOf (waiting : List Waiter) : List (DateTime × Announcement) :=
  waiting.filterMap fun
    | .update now a => some (now, a)
    | .stop => none

/-- The world without an order of those who wait: they are tasks like those that have not
started. -/
def flattened (s : ServiceWorld) : UdpWorld :=
  { s.world with tasks := updatesOf s.waiting ++ s.world.tasks }

variable {rules} {self : LocalIdentity} {s : ServiceWorld}

theorem updatesOf_cons_update (now : DateTime) (a : Announcement) (waiting : List Waiter) :
    updatesOf (.update now a :: waiting) = (now, a) :: updatesOf waiting := rfl

theorem updatesOf_append (waiting waiting' : List Waiter) :
    updatesOf (waiting ++ waiting') = updatesOf waiting ++ updatesOf waiting' :=
  List.filterMap_append

/-- Whoever gets the lock is the first of the tasks. -/
theorem flattened_startTask (s : ServiceWorld) :
    (s.startTask rules).flattened = s.flattened
      ∨ (s.startTask rules).flattened = s.flattened.updatePeer rules 0 := by
  rw [startTask]
  cases htasks : s.world.tasks with
  | nil => exact Or.inl rfl
  | cons task tasks =>
      obtain ⟨now, a⟩ := task
      dsimp only
      cases hcontended : s.contended with
      | true =>
          left
          rw [if_pos rfl, flattened, flattened, htasks, updatesOf_append, List.append_assoc]
          rfl
      | false =>
          right
          rw [contended, Bool.or_eq_false_iff, Bool.not_eq_false', List.isEmpty_iff] at hcontended
          rw [if_neg Bool.false_ne_true, flattened, flattened, htasks, hcontended.2,
            UdpWorld.locking_withTasks]
          exact (UdpWorld.updatePeer_zero rules now a tasks hcontended.1).symm

theorem flattened_wake (h : Waiter.stop ∉ s.waiting) :
    (s.wake rules).flattened = s.flattened
      ∨ (s.wake rules).flattened = s.flattened.updatePeer rules 0 := by
  rw [wake]
  cases hlocked : s.world.locked with
  | true => exact Or.inl rfl
  | false =>
      rw [if_neg Bool.false_ne_true]
      cases hwaiting : s.waiting with
      | nil => exact Or.inl rfl
      | cons waiter waiting =>
          cases waiter with
          | stop => exact absurd (hwaiting ▸ List.mem_cons_self) h
          | update now a =>
              right
              dsimp only
              rw [flattened, flattened, hwaiting, updatesOf_cons_update, List.cons_append,
                UdpWorld.updatePeer_zero rules now a _ hlocked]
              dsimp only
              rw [UdpWorld.tasks_locking]

/-- A step that leaves the tasks alone. -/
theorem flattened_withWorld {f : UdpWorld → UdpWorld}
    (h : ∀ w tasks, f { w with tasks } = { f w with tasks }) (s : ServiceWorld) :
    ({ s with world := f s.world } : ServiceWorld).flattened = f s.flattened := by
  have hself : f s.world = { f s.world with tasks := s.world.tasks } := h s.world s.world.tasks
  have htasks : (f s.world).tasks = s.world.tasks := by rw [hself]
  have hflattened : f s.flattened = { f s.world with
    tasks := updatesOf s.waiting ++ s.world.tasks } := h _ _
  rw [hflattened, flattened]
  dsimp only
  rw [htasks]

theorem flattened_reaping {f : UdpWorld → UdpWorld}
    (h : ∀ w tasks, f { w with tasks } = { f w with tasks }) (s : ServiceWorld) :
    (s.reaping f).flattened = s.flattened ∨ (s.reaping f).flattened = f s.flattened := by
  rw [reaping]
  split_ifs
  · exact Or.inr (flattened_withWorld h s)
  · exact Or.inl rfl

theorem flattened_handleDatagram (now : DateTime) (payload : Option PyValue) (remoteIp : String) :
    (s.handleDatagram rules self now payload remoteIp).flattened = s.flattened
      ∨ (s.handleDatagram rules self now payload remoteIp).flattened
        = s.flattened.handleDatagram rules self now payload remoteIp := by
  have hopen : ({ s with
    world := s.world.handleDatagram rules self now payload remoteIp } : ServiceWorld).flattened
      = s.flattened.handleDatagram rules self now payload remoteIp := by
    rw [flattened, UdpWorld.handleDatagram, UdpWorld.handleDatagram]
    cases DiscoveryService.parse rules payload remoteIp with
    | none => rfl
    | some a =>
        dsimp only
        split_ifs
        · rfl
        · rw [flattened, List.append_assoc]
  rw [handleDatagram]
  split
  · exact Or.inr hopen
  · exact Or.inr hopen
  · exact Or.inl rfl
  · exact Or.inl rfl

/-- **The service is the UDP world.** Until it is stopped, every step is one
of the world or none. -/
theorem flattened_step (action : ServiceAction) (hstop : action ≠ .stop)
    (hended : action ≠ .loopsEnded) (hwaiting : Waiter.stop ∉ s.waiting) :
    (step rules self s action).flattened = s.flattened
      ∨ ∃ action', (step rules self s action).flattened = s.flattened.step rules self action' := by
  cases action with
  | start =>
      left
      rw [step, start]
      split_ifs
      · rfl
      · rfl
  | datagram now payload remoteIp =>
      exact (flattened_handleDatagram now payload remoteIp).imp id fun h =>
        ⟨.datagram now payload remoteIp, h⟩
  | startTask => exact (flattened_startTask s).imp id fun h => ⟨.updatePeer 0, h⟩
  | wake => exact (flattened_wake hwaiting).imp id fun h => ⟨.updatePeer 0, h⟩
  | handleEvent => exact Or.inr ⟨.handleEvent, flattened_withWorld UdpWorld.handleEvent_withTasks s⟩
  | releaseLock => exact Or.inr ⟨.releaseLock, flattened_withWorld UdpWorld.releaseLock_withTasks s⟩
  | reap now =>
      exact (flattened_reaping (UdpWorld.reap_withTasks rules now) s).imp id fun h => ⟨.reap now, h⟩
  | announceLost =>
      exact (flattened_reaping UdpWorld.announceLost_withTasks s).imp id fun h => ⟨.announceLost, h⟩
  | stop => exact absurd rfl hstop
  | loopsEnded => exact absurd rfl hended

end ServiceWorld

end Shyam
