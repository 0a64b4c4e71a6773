import Shyam.Discovery.Peers

/-!
# UDP discovery as tasks

A datagram starts a task. The tasks and the reaper share a lock, and a task keeps it until what it
published is handled. The reaper gives it back with the first loss already published, and it
publishes the next one when the one before is handled. The event loop starts the handlers in the
order of the publications, and each of them writes the registry before it suspends.
-/

namespace Shyam

open Python

inductive PeerEvent where
  | discovered (peer : Peer)
  | updated (peer : Peer)
  | lost (nodeId : String)

namespace PeerEvent

def isLost : PeerEvent → Bool
  | .discovered _ | .updated _ => false
  | .lost _ => true

/-- What the runtime has subscribed. -/
def handle (registry : EcosystemRegistry) : PeerEvent → EcosystemRegistry
  | .discovered peer | .updated peer => EcosystemDiscoveryService.ingestUdpPeer peer registry
  | .lost nodeId => EcosystemDiscoveryService.handleUdpPeerLost nodeId registry

end PeerEvent

/-- The tasks that wait for the lock, whether one holds it, the events that are not handled yet, and
the ids that were heard of. The state keeps the losses that the reaper has still to publish. -/
structure UdpWorld where
  state : DiscoveryState := {}
  tasks : List (DateTime × Announcement) := []
  locked : Bool := false
  published : List PeerEvent := []
  seen : List String := []

/-- A datagram comes with the time its task reads first. -/
inductive UdpAction where
  | datagram (now : DateTime) (payload : Option PyValue) (remoteIp : String)
  | updatePeer (index : ℕ)
  | releaseLock
  | reap (now : DateTime)
  | announceLost
  | handleEvent

namespace UdpWorld

variable (rules : DiscoveryRules)

/-- The local node is there before the handlers are subscribed. -/
def start (self : LocalIdentity) (now : DateTime) (fabric : LocalFabric) : UdpWorld where
  state := { registry := EcosystemDiscoveryService.discoverLocalNode self now fabric .empty }

def handleDatagram (self : LocalIdentity) (now : DateTime) (payload : Option PyValue)
    (remoteIp : String) (w : UdpWorld) : UdpWorld :=
  match DiscoveryService.parse rules payload remoteIp with
  | some a =>
      if a.nodeId = self.nodeId then w
      else { w with tasks := w.tasks ++ [(now, a)], seen := w.seen ++ [a.nodeId] }
  | none => w

/-- `async with self._peers_lock`, up to the publication that it waits for. -/
def locking (now : DateTime) (a : Announcement) (w : UdpWorld) : UdpWorld :=
  match w.state.peers.entries.get? a.nodeId with
  | none =>
      match DiscoveryService.newPeer rules now a with
      | some peer =>
          { w with
            state := { w.state with peers := w.state.peers.put peer }
            locked := true
            published := w.published ++ [.discovered peer] }
      | none => w
  | some existing =>
      let updated := DiscoveryService.updatedPeer now existing a
      let w := { w with state := { w.state with peers := w.state.peers.put updated } }
      if DiscoveryService.changed rules existing a then
        { w with
          locked := true
          published := w.published ++ [.updated updated] }
      else w

theorem tasks_locking {rules : DiscoveryRules} {now : DateTime} {w : UdpWorld} (a : Announcement) :
    (locking rules now a w).tasks = w.tasks := by
  rw [locking]
  split
  · split <;> rfl
  · dsimp only
    split_ifs <;> rfl

def updatePeer (index : ℕ) (w : UdpWorld) : UdpWorld :=
  match w.tasks[index]? with
  | some (now, a) =>
      if w.locked then w else locking rules now a { w with tasks := w.tasks.eraseIdx index }
  | none => w

/-- The task ends when its event is handled. -/
def releaseLock (w : UdpWorld) : UdpWorld :=
  if w.published.all PeerEvent.isLost then { w with locked := false } else w

def publishLost (w : UdpWorld) : UdpWorld :=
  match w.state.lost with
  | nodeId :: lost =>
      { w with
        state := { w.state with lost := lost }
        published := w.published ++ [.lost nodeId] }
  | [] => w

/-- The reaper waits for the loss that it has published. -/
def announcing (w : UdpWorld) : Bool := w.published.any PeerEvent.isLost

def announceLost (w : UdpWorld) : UdpWorld := if w.announcing then w else publishLost w

/-- The next round starts when the losses of the last one are published. -/
def reap (now : DateTime) (w : UdpWorld) : UdpWorld :=
  if w.locked || w.announcing || !w.state.lost.isEmpty then w
  else publishLost { w with state := DiscoveryService.reap rules now w.state }

def handleEvent (w : UdpWorld) : UdpWorld :=
  match w.published with
  | event :: published =>
      { w with
        state := { w.state with registry := event.handle w.state.registry }
        published := published }
  | [] => w

def step (self : LocalIdentity) (w : UdpWorld) : UdpAction → UdpWorld
  | .datagram now payload remoteIp => handleDatagram rules self now payload remoteIp w
  | .updatePeer index => updatePeer rules index w
  | .releaseLock => releaseLock w
  | .reap now => reap rules now w
  | .announceLost => announceLost w
  | .handleEvent => handleEvent w

/-! ### With every event handled -/

/-- The state once everything that is published is handled. -/
def settled (w : UdpWorld) : DiscoveryState :=
  { w.state with registry := w.published.foldl PeerEvent.handle w.state.registry }

theorem settled_of_published_nil {w : UdpWorld} (h : w.published = []) : w.settled = w.state := by
  rw [settled, h]
  rfl

theorem settled_handleDatagram (self : LocalIdentity) (now : DateTime) (payload : Option PyValue)
    (remoteIp : String) (w : UdpWorld) :
    (handleDatagram rules self now payload remoteIp w).settled = w.settled := by
  rw [handleDatagram]
  split
  · split_ifs
    · rfl
    · rfl
  · rfl

theorem settled_releaseLock (w : UdpWorld) : w.releaseLock.settled = w.settled := by
  rw [releaseLock]
  split_ifs
  · rfl
  · rfl

theorem settled_handleEvent (w : UdpWorld) : w.handleEvent.settled = w.settled := by
  rw [handleEvent]
  split
  · rename_i event published hpublished
    rw [settled, settled, hpublished]
    rfl
  · rfl

/-- A task does to the settled state what an undisturbed update does. -/
theorem settled_locking (now : DateTime) (a : Announcement) (w : UdpWorld) :
    (locking rules now a w).settled = DiscoveryService.updatePeer rules now a w.settled := by
  have hpeers : w.settled.peers = w.state.peers := rfl
  rw [locking, DiscoveryService.updatePeer, hpeers]
  cases w.state.peers.entries.get? a.nodeId with
  | none =>
      dsimp only
      cases DiscoveryService.newPeer rules now a with
      | none => rfl
      | some peer =>
          simp only [settled, List.foldl_append, List.foldl_cons, List.foldl_nil]
          rfl
  | some existing =>
      dsimp only
      split_ifs
      · simp only [settled, List.foldl_append, List.foldl_cons, List.foldl_nil]
        rfl
      · rfl

theorem settled_publishLost_cons {w : UdpWorld} {nodeId : String} {lost : List String}
    (h : w.state.lost = nodeId :: lost) :
    w.publishLost.settled = DiscoveryService.peerLost nodeId w.settled := by
  have hlost : w.settled.lost = nodeId :: lost := h
  rw [publishLost, h, DiscoveryService.peerLost, hlost, if_pos List.mem_cons_self,
    List.erase_cons_head]
  simp only [settled, List.foldl_append, List.foldl_cons, List.foldl_nil]
  rfl

end UdpWorld

end Shyam
