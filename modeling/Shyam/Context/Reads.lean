import Shyam.Context.Service
import Shyam.Lib.Run

/-!
# Reading the store

A sequence of calls of the store, and the snapshots that `get_state` has returned. A snapshot of the
ecosystem carries the time at which it was taken; before the first one the store makes up an empty
one, anew at each call.
-/

namespace Shyam

open Python

/-- What `get_state` returned, and the time of its snapshot of the ecosystem. -/
structure StateRead where
  state : EcosystemState
  timestamp : DateTime

/-- The store, the time of the snapshot it keeps, and what it has returned. -/
structure StoreReads where
  store : EcosystemStateStore
  taken : Option DateTime := none
  reads : List StateRead := []

namespace StoreReads

/-- A call; an event may come to any handler. -/
inductive Call where
  | updateDiscovery (timestamp : DateTime) (snapshot : EcosystemSnapshot)
  | handle (handler : ContextHandler) (event : BusEvent)
  | getState (now : DateTime)

def read (w : StoreReads) (now : DateTime) : StateRead where
  state := w.store.getState
  timestamp := w.taken.getD now

def step (w : StoreReads) : Call → StoreReads
  | .updateDiscovery timestamp snapshot =>
      { w with store := w.store.updateDiscovery snapshot, taken := some timestamp }
  | .handle handler event => { w with store := handler.handle w.store event.timestamp event.body }
  | .getState now => { w with reads := w.reads ++ [w.read now] }

/-- A store that keeps `maxActivity` entries. -/
def start (maxActivity : ℕ) : StoreReads := { store := { maxActivity } }

end StoreReads

end Shyam
