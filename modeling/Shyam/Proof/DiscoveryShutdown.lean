import Shyam.Lib.Run
import Shyam.Discovery.Shutdown
import Shyam.Proof.UdpLiveness

/-!
# Stopping is final

Who has asked for the lock before `stop` does gets it before the peers are cleared. What comes later
than that finds no peers, and it is the model of a new peer alone that can keep it from making one.
-/

namespace Shyam

open Python Transition

namespace ServiceWorld

variable (rules : DiscoveryRules)

/-- A stopped service has no peers, and has published none of the events about
a peer that is there. -/
def Final (s : ServiceWorld) : Prop :=
  s.phase = .idle →
    s.world.state.peers.entries = ∅ ∧ ∀ event ∈ s.world.published, event.isLost = true

/-- The announcement makes no new peer. -/
def Refused (task : DateTime × Announcement) : Prop :=
  DiscoveryService.newPeer rules task.1 task.2 = none

/-- When `stop` goes on after the end of its loops, no task that has not started makes a peer. -/
def NoLateTask (s : ServiceWorld) : ServiceAction → Prop
  | .loopsEnded => s.phase = .stopping → ∀ task ∈ s.world.tasks, Refused rules task
  | _ => True

/-! ### What holds in each phase -/

def RefusedWaiter : Waiter → Prop
  | .update now a => Refused rules (now, a)
  | .stop => False

/-- In the phase `leaving`, `stop` waits for the lock, and what comes after it is refused. -/
structure Leaving (s : ServiceWorld) : Prop where
  tasks : ∀ task ∈ s.world.tasks, Refused rules task
  waiting : ∃ ahead behind, s.waiting = ahead ++ .stop :: behind ∧ Waiter.stop ∉ ahead
    ∧ ∀ waiter ∈ behind, RefusedWaiter rules waiter

structure Idle (s : ServiceWorld) : Prop where
  peers : s.world.state.peers.entries = ∅
  unlocked : s.world.locked = false
  tasks : ∀ task ∈ s.world.tasks, Refused rules task
  waiting : ∀ waiter ∈ s.waiting, RefusedWaiter rules waiter

def InPhase (s : ServiceWorld) : Prop :=
  match s.phase with
  | .idle => Idle rules s
  | .listening | .stopping => Waiter.stop ∉ s.waiting
  | .leaving => Leaving rules s

/-- Without the lock nothing but losses is being published. -/
def Settled (w : UdpWorld) : Prop := w.locked = false → ∀ event ∈ w.published, event.isLost = true

structure Ordered (s : ServiceWorld) : Prop where
  settled : Settled s.world
  inPhase : InPhase rules s

variable {rules} {self : LocalIdentity} {s : ServiceWorld} {w : UdpWorld}

theorem Ordered.final (h : Ordered rules s) : Final s := by
  intro hidle
  have hphase := h.inPhase
  rw [InPhase, hidle] at hphase
  exact ⟨hphase.peers, h.settled hphase.unlocked⟩

/-! ### The world -/

/-- A task either leaves no event, or it keeps the lock. -/
theorem settled_locking (h : Settled w) (hunlocked : w.locked = false) (now : DateTime)
    (a : Announcement) :
    Settled (UdpWorld.locking rules now a w) := by
  rw [UdpWorld.locking]
  cases w.state.peers.entries.get? a.nodeId with
  | none =>
      dsimp only
      cases DiscoveryService.newPeer rules now a with
      | none => exact h
      | some peer => exact fun hfree => absurd hfree.symm Bool.false_ne_true
  | some existing =>
      dsimp only
      split_ifs
      · exact fun hfree => absurd hfree.symm Bool.false_ne_true
      · exact fun _ => h hunlocked

theorem locking_of_refused {now : DateTime} {a : Announcement} (hpeers : w.state.peers.entries = ∅)
    (hrefused : Refused rules (now, a)) : UdpWorld.locking rules now a w = w := by
  have hnone : w.state.peers.entries.get? a.nodeId = none := by
    rw [hpeers, Dict.get?_empty]
  have hnew : DiscoveryService.newPeer rules now a = none := hrefused
  rw [UdpWorld.locking, hnone]
  dsimp only
  rw [hnew]

theorem settled_handleEvent (h : Settled w) : Settled w.handleEvent := by
  rw [UdpWorld.handleEvent]
  split
  · rename_i event published hpublished
    intro hunlocked event hevent
    exact h hunlocked event (hpublished ▸ List.mem_cons_of_mem _ hevent)
  · exact h

theorem settled_releaseLock (h : Settled w) : Settled w.releaseLock := by
  rw [UdpWorld.releaseLock]
  split_ifs with hlosses
  · exact fun _ => List.all_eq_true.mp hlosses
  · exact h

theorem settled_publishLost (h : Settled w) : Settled w.publishLost := by
  rw [UdpWorld.publishLost]
  split
  · intro hunlocked event hevent
    rcases List.mem_append.mp hevent with hevent | hevent
    · exact h hunlocked event hevent
    · rw [List.mem_singleton.mp hevent]
      rfl
  · exact h

theorem settled_announceLost (h : Settled w) : Settled w.announceLost := by
  rw [UdpWorld.announceLost]
  split_ifs
  · exact h
  · exact settled_publishLost h

theorem settled_reap (h : Settled w) (now : DateTime) : Settled (w.reap rules now) := by
  rw [UdpWorld.reap]
  split_ifs
  · exact h
  · exact settled_publishLost h

theorem settled_handleDatagram (h : Settled w) (now : DateTime) (payload : Option PyValue)
    (remoteIp : String) :
    Settled (w.handleDatagram rules self now payload remoteIp) := by
  rw [UdpWorld.handleDatagram]
  split
  · split_ifs
    · exact h
    · exact h
  · exact h

theorem settled_cancelLoops (h : Settled w) : Settled w.cancelLoops :=
  fun hunlocked event hevent => h hunlocked event (List.mem_of_mem_filter hevent)

/-! ### Steps -/

theorem Ordered.start (h : Ordered rules s) : Ordered rules s.start := by
  obtain ⟨world, waiting, phase⟩ := s
  cases phase with
  | idle =>
      have hidle : Idle rules _ := h.inPhase
      exact ⟨h.settled, fun hstop => hidle.waiting .stop hstop⟩
  | listening | stopping | leaving => exact h

theorem Ordered.handleDatagram (h : Ordered rules s) (now : DateTime) (payload : Option PyValue)
    (remoteIp : String) : Ordered rules (s.handleDatagram rules self now payload remoteIp) := by
  obtain ⟨world, waiting, phase⟩ := s
  cases phase with
  | idle | leaving => exact h
  | listening | stopping => exact ⟨settled_handleDatagram h.settled now payload remoteIp, h.inPhase⟩

theorem Ordered.reaping (h : Ordered rules s) {f : UdpWorld → UdpWorld}
    (hf : Settled s.world → Settled (f s.world)) :
    Ordered rules (s.reaping f) := by
  obtain ⟨world, waiting, phase⟩ := s
  cases phase with
  | idle | stopping | leaving => exact h
  | listening => exact ⟨hf h.settled, h.inPhase⟩

/-- What goes on in the world without the lock being taken. -/
theorem Ordered.withWorld (h : Ordered rules s) {world : UdpWorld} (hsettled : Settled world)
    (hpeers : world.state.peers = s.world.state.peers) (htasks : world.tasks = s.world.tasks)
    (hunlocked : s.world.locked = false → world.locked = false) :
    Ordered rules { s with world } := by
  refine ⟨hsettled, ?_⟩
  obtain ⟨before, waiting, phase⟩ := s
  cases phase with
  | idle =>
      have hidle : Idle rules _ := h.inPhase
      exact
        { peers := (congrArg PeerMap.entries hpeers).trans hidle.peers
          unlocked := hunlocked hidle.unlocked
          tasks := fun task htask => hidle.tasks task (htasks ▸ htask)
          waiting := hidle.waiting }
  | listening | stopping => exact h.inPhase
  | leaving =>
      have hleaving : Leaving rules _ := h.inPhase
      exact
        { tasks := fun task htask => hleaving.tasks task (htasks ▸ htask)
          waiting := hleaving.waiting }

theorem Ordered.handleEvent (h : Ordered rules s) :
    Ordered rules { s with world := s.world.handleEvent } := by
  refine h.withWorld (settled_handleEvent h.settled) ?_ ?_ ?_
  all_goals
    rw [UdpWorld.handleEvent]
    split
    · first | rfl | exact id
    · first | rfl | exact id

theorem Ordered.releaseLock (h : Ordered rules s) :
    Ordered rules { s with world := s.world.releaseLock } := by
  refine h.withWorld (settled_releaseLock h.settled) ?_ ?_ ?_
  all_goals
    rw [UdpWorld.releaseLock]
    split_ifs
    · first | rfl | exact fun _ => rfl
    · first | rfl | exact id

theorem Ordered.stop (h : Ordered rules s) : Ordered rules s.stop := by
  obtain ⟨world, waiting, phase⟩ := s
  cases phase with
  | idle | stopping | leaving => exact h
  | listening => exact ⟨settled_cancelLoops h.settled, h.inPhase⟩

/-- A waiter joins, and it is refused where that counts. -/
theorem Ordered.join (h : Ordered rules s) {now : DateTime} {a : Announcement}
    {tasks : List (DateTime × Announcement)} (htasks : s.world.tasks = (now, a) :: tasks) :
    Ordered rules
      { s with
        world := { s.world with tasks := tasks }
        waiting := s.waiting ++ [.update now a] } := by
  refine ⟨h.settled, ?_⟩
  obtain ⟨world, waiting, phase⟩ := s
  dsimp only at htasks
  have hopen : Waiter.stop ∉ waiting → Waiter.stop ∉ waiting ++ [.update now a] := by
    intro hstop
    simpa using hstop
  cases phase with
  | idle =>
      have hidle : Idle rules _ := h.inPhase
      have hrefused := hidle.tasks
      dsimp only at hrefused
      rw [htasks, List.forall_mem_cons] at hrefused
      exact
        { peers := hidle.peers
          unlocked := hidle.unlocked
          tasks := hrefused.2
          waiting :=
            List.forall_mem_append.mpr ⟨hidle.waiting, List.forall_mem_singleton.mpr hrefused.1⟩ }
  | listening | stopping => exact hopen h.inPhase
  | leaving =>
      have hleaving : Leaving rules _ := h.inPhase
      have hrefused := hleaving.tasks
      dsimp only at hrefused
      rw [htasks, List.forall_mem_cons] at hrefused
      obtain ⟨ahead, behind, hwaiting, hahead, hbehind⟩ := hleaving.waiting
      dsimp only at hwaiting
      refine ⟨hrefused.2, ahead, behind ++ [.update now a], ?_, hahead, ?_⟩
      · rw [hwaiting, List.append_assoc, List.cons_append]
      · exact List.forall_mem_append.mpr ⟨hbehind, List.forall_mem_singleton.mpr hrefused.1⟩

/-- A task gets the lock. -/
theorem Ordered.wake_update (h : Ordered rules s) (hunlocked : s.world.locked = false)
    {now : DateTime} {a : Announcement} {waiting : List Waiter}
    (hwaiting : s.waiting = .update now a :: waiting) :
    Ordered rules
      { s with
        world := UdpWorld.locking rules now a s.world
        waiting := waiting } := by
  refine ⟨settled_locking h.settled hunlocked now a, ?_⟩
  obtain ⟨world, _, phase⟩ := s
  cases hwaiting
  cases phase with
  | idle =>
      have hidle : Idle rules _ := h.inPhase
      obtain ⟨hrefused, hrest⟩ := List.forall_mem_cons.mp hidle.waiting
      dsimp only
      rw [locking_of_refused hidle.peers hrefused]
      exact
        { peers := hidle.peers
          unlocked := hidle.unlocked
          tasks := hidle.tasks
          waiting := hrest }
  | listening | stopping =>
      have hopen : Waiter.stop ∉ .update now a :: waiting := h.inPhase
      exact fun hstop => hopen (List.mem_cons_of_mem _ hstop)
  | leaving =>
      have hleaving : Leaving rules _ := h.inPhase
      obtain ⟨ahead, behind, hsplit, hahead, hbehind⟩ := hleaving.waiting
      constructor
      case tasks =>
        dsimp only
        rw [UdpWorld.tasks_locking]
        exact hleaving.tasks
      case waiting =>
        cases ahead with
        | nil => cases hsplit
        | cons first ahead =>
            obtain ⟨rfl, hrest⟩ := List.cons.inj hsplit
            exact ⟨ahead, behind, hrest, fun hstop => hahead (List.mem_cons_of_mem _ hstop),
              hbehind⟩

/-- `stop` gets the lock, which it can only in the phase `leaving`. -/
theorem Ordered.wake_stop (h : Ordered rules s) (hunlocked : s.world.locked = false)
    {waiting : List Waiter} (hwaiting : s.waiting = .stop :: waiting) :
    Ordered rules
      { world := s.world.clearPeers
        waiting := waiting
        phase := .idle } := by
  refine ⟨h.settled, ?_⟩
  obtain ⟨world, _, phase⟩ := s
  cases hwaiting
  cases phase with
  | idle =>
      have hidle : Idle rules _ := h.inPhase
      exact absurd (hidle.waiting .stop List.mem_cons_self) id
  | listening | stopping =>
      have hopen : Waiter.stop ∉ .stop :: waiting := h.inPhase
      exact absurd List.mem_cons_self hopen
  | leaving =>
      have hleaving : Leaving rules _ := h.inPhase
      obtain ⟨ahead, behind, hsplit, hahead, hbehind⟩ := hleaving.waiting
      cases ahead with
      | nil =>
          obtain ⟨-, rfl⟩ := List.cons.inj hsplit
          exact
            { peers := rfl
              unlocked := hunlocked
              tasks := hleaving.tasks
              waiting := hbehind }
      | cons first ahead =>
          obtain ⟨rfl, -⟩ := List.cons.inj hsplit
          exact absurd List.mem_cons_self hahead

/-- The lock is given to the first who waits. -/
theorem Ordered.wake (h : Ordered rules s) : Ordered rules (s.wake rules) := by
  rw [ServiceWorld.wake]
  cases hunlocked : s.world.locked with
  | true => exact h
  | false =>
      rw [if_neg Bool.false_ne_true]
      cases hwaiting : s.waiting with
      | nil => exact h
      | cons waiter waiting =>
          cases waiter with
          | update now a => exact h.wake_update hunlocked hwaiting
          | stop => exact h.wake_stop hunlocked hwaiting

/-- A task that starts waits, if only for a moment. -/
theorem Ordered.startTask (h : Ordered rules s) : Ordered rules (s.startTask rules) := by
  rw [ServiceWorld.startTask]
  cases htasks : s.world.tasks with
  | nil => exact h
  | cons task tasks =>
      obtain ⟨now, a⟩ := task
      have hjoined := h.join htasks
      dsimp only
      cases hcontended : s.contended with
      | true => exact hjoined
      | false =>
          rw [contended, Bool.or_eq_false_iff, Bool.not_eq_false', List.isEmpty_iff] at hcontended
          obtain ⟨hunlocked, hnobody⟩ := hcontended
          have hfree : ¬s.world.locked = true := by
            rw [hunlocked]
            exact Bool.false_ne_true
          have hwoken := hjoined.wake
          rw [ServiceWorld.wake, if_neg hfree, hnobody] at hwoken
          rw [if_neg Bool.false_ne_true, hnobody]
          exact hwoken

theorem Ordered.loopsEnded (h : Ordered rules s) (hlate : NoLateTask rules s .loopsEnded) :
    Ordered rules s.loopsEnded := by
  obtain ⟨world, waiting, phase⟩ := s
  cases phase with
  | idle | listening | leaving => exact h
  | stopping =>
      have hopen : Waiter.stop ∉ waiting := h.inPhase
      have hrefused := hlate rfl
      rw [ServiceWorld.loopsEnded, if_pos rfl]
      split_ifs with hcontended
      · exact ⟨h.settled, hrefused, waiting, [], rfl, hopen, List.forall_mem_nil _⟩
      · rw [contended, Bool.not_eq_true, Bool.or_eq_false_iff, Bool.not_eq_false',
          List.isEmpty_iff] at hcontended
        obtain ⟨hunlocked, rfl⟩ := hcontended
        refine ⟨h.settled, ?_⟩
        exact
          { peers := rfl
            unlocked := hunlocked
            tasks := hrefused
            waiting := List.forall_mem_nil _ }

/-- The step rule. -/
theorem Ordered.step (h : Ordered rules s) (action : ServiceAction)
    (hlate : NoLateTask rules s action) :
    Ordered rules (step rules self s action) := by
  cases action with
  | start => exact h.start
  | datagram now payload remoteIp => exact h.handleDatagram now payload remoteIp
  | startTask => exact h.startTask
  | wake => exact h.wake
  | handleEvent => exact h.handleEvent
  | releaseLock => exact h.releaseLock
  | reap now => exact h.reaping fun hsettled => settled_reap hsettled now
  | announceLost => exact h.reaping settled_announceLost
  | stop => exact h.stop
  | loopsEnded => exact h.loopsEnded hlate

/-- Past `stop`, the first task that is not refused finds no peer of its node. -/
theorem exists_not_final (hphase : s.phase = .idle) (hfree : s.contended = false)
    (hpeers : s.world.state.peers.entries = ∅)
    (hlate : ¬∀ task ∈ s.world.tasks, Refused rules task) :
    ∃ k, ¬Final (run (step rules self) s (List.replicate k .startTask)) := by
  induction htasks : s.world.tasks generalizing s with
  | nil => exact absurd (htasks ▸ List.forall_mem_nil _) hlate
  | cons task tasks ih =>
      obtain ⟨now, a⟩ := task
      rw [htasks, List.forall_mem_cons] at hlate
      have hstart : s.startTask rules
          = { s with world := UdpWorld.locking rules now a { s.world with tasks := tasks } } := by
        rw [ServiceWorld.startTask, htasks]
        dsimp only
        rw [hfree, if_neg Bool.false_ne_true]
      by_cases hrefused : Refused rules (now, a)
      · have hpeers' : ({ s.world with tasks := tasks } : UdpWorld).state.peers.entries = ∅ :=
          hpeers
        rw [locking_of_refused hpeers' hrefused] at hstart
        obtain ⟨k, hk⟩ :=
          ih (s := { s with world := { s.world with tasks := tasks } }) hphase hfree hpeers
          (fun h => hlate ⟨hrefused, h⟩) rfl
        refine ⟨k + 1, ?_⟩
        rw [List.replicate_succ, run_cons, step, hstart]
        exact hk
      · obtain ⟨peer, hpeer⟩ := Option.ne_none_iff_exists'.mp hrefused
        have hnone : s.world.state.peers.entries.get? a.nodeId = none := by
          rw [hpeers, Dict.get?_empty]
        refine ⟨1, ?_⟩
        rw [List.replicate_one, run_cons, run_nil, step, hstart, UdpWorld.locking, hnone]
        dsimp only at hpeer ⊢
        rw [hpeer]
        intro hfinal
        have hempty : s.world.state.peers.entries.set peer.nodeId peer = ∅ := (hfinal hphase).1
        have hget : (s.world.state.peers.entries.set peer.nodeId peer).get? peer.nodeId = none := by
          rw [hempty, Dict.get?_empty]
        rw [Dict.get?_set, if_pos rfl] at hget
        cases hget

/-- **Late tasks.** Where nothing else has or wants the lock, a task that would make a peer and has
still to start when `stop` goes on does so after `stop` has returned. -/
theorem not_final_of_lateTask (hfree : s.contended = false)
    (hlate : ¬NoLateTask rules s .loopsEnded) :
    ∃ k, ¬Final (run (step rules self) s (.loopsEnded :: List.replicate k .startTask)) := by
  rw [NoLateTask, Classical.not_imp] at hlate
  obtain ⟨hstopping, htasks⟩ := hlate
  simp only [run_cons, step, ServiceWorld.loopsEnded, if_pos hstopping, hfree,
    if_neg Bool.false_ne_true]
  exact exists_not_final rfl hfree rfl htasks

/-- **Stopping.** Whatever the order of the steps, a stopped service has no peers and stays quiet,
provided that no task that could make a peer has still to start when `stop` goes on after the end of
its loops. -/
theorem final_of_noLateTask (rules : DiscoveryRules) (self : LocalIdentity)
    (registry : EcosystemRegistry) (actions : List ServiceAction)
    (hlate : Along (step rules self) (NoLateTask rules)
      { world := { state := { registry } } } actions) :
    Always (step rules self) Final { world := { state := { registry } } } actions := by
  have hstart : Ordered rules { world := { state := { registry } } } := by
    refine ⟨fun _ => List.forall_mem_nil _, ?_⟩
    exact
      { peers := rfl
        unlocked := rfl
        tasks := List.forall_mem_nil _
        waiting := List.forall_mem_nil _ }
  exact hlate.always (fun _ action h hlate => h.step action hlate) (fun _ h => h.final) hstart

/-! ### A laptop is heard late -/

def laptopHeard : ServiceAction :=
  .datagram (.clock 0) (some (.dict [("node_id", .str (uuidText 2)), ("node_name", .str "laptop"),
    ("port", .int 54321)])) "10.0.0.2"

/-- `stop` is called while one task publishes with the lock and another is still to start. -/
theorem final_of_noLateTask_suspended :
    Always (step UdpWorld.laptopRules ⟨uuidText 1, "desk", "0.2.0"⟩) Final {}
      [.start, laptopHeard, .startTask, laptopHeard, .stop, .startTask, .loopsEnded, .handleEvent,
        .releaseLock, .wake, .wake] := by
  refine final_of_noLateTask UdpWorld.laptopRules ⟨uuidText 1, "desk", "0.2.0"⟩ .empty _ ?_
  exact ⟨trivial, trivial, trivial, trivial, trivial, trivial, fun _ => List.forall_mem_nil _,
    trivial, trivial, trivial, trivial, trivial⟩

/-- The service is stopped, has the laptop as a peer, and is publishing that it was discovered. -/
def HearsLaptop (s : ServiceWorld) : Prop :=
  s.phase = .idle ∧ ∃ peer, s.world.state.peers.entries.get? (uuidText 2) = some peer
    ∧ s.world.published = [.discovered peer]

/-- The task of a datagram that is heard before `stop`, where the loops had ended by themselves, and
the task of one that is heard while `stop` waits for them. -/
theorem laptop_after_stop :
    HearsLaptop (run (step UdpWorld.laptopRules ⟨uuidText 1, "desk", "0.2.0"⟩) {}
        [.start, laptopHeard, .stop, .loopsEnded, .startTask])
      ∧ HearsLaptop (run (step UdpWorld.laptopRules ⟨uuidText 1, "desk", "0.2.0"⟩) {}
        [.start, .stop, laptopHeard, .loopsEnded, .startTask]) :=
  ⟨⟨rfl, _, rfl, rfl⟩, rfl, _, rfl, rfl⟩

end ServiceWorld

end Shyam
