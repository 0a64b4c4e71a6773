/-!
# The event bus

Handlers are registered for a class of events, once each, and a publication invokes those that are
registered for a class of the event. What one of them raises does not reach the others.
-/

namespace Shyam

/-- `_subscribers`: the handlers of each class, in the order of the first registrations. -/
structure EventBus (EventType Handler : Type) where
  subscribers : List (EventType × List Handler) := []

namespace EventBus

variable {EventType Handler : Type} [DecidableEq EventType] [DecidableEq Handler]

/-- The handlers of one class with this one added, where it is not there yet. -/
def addHandler (handler : Handler) (handlers : List Handler) : List Handler :=
  if handler ∈ handlers then handlers else handlers ++ [handler]

def subscribe (self : EventBus EventType Handler) (eventType : EventType) (handler : Handler) :
    EventBus EventType Handler :=
  if eventType ∈ self.subscribers.map Prod.fst then
    { subscribers := self.subscribers.map fun entry =>
        if entry.1 = eventType then (entry.1, addHandler handler entry.2) else entry }
  else { subscribers := self.subscribers ++ [(eventType, [handler])] }

/-- The handlers that `publish` invokes with an event itself. -/
def handlersToInvoke (self : EventBus EventType Handler)
    (issubclass : EventType → EventType → Bool) (eventType : EventType) : List Handler :=
  self.subscribers.flatMap fun entry => if issubclass eventType entry.1 then entry.2 else []

end EventBus

end Shyam
