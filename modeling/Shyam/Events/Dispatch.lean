import Shyam.Events.Bus
import Shyam.Lib.Checks
import Shyam.Lib.PyValue

/-!
# The dispatch of events

Handlers may be registered for a class of events, for envelopes, or for the envelopes of a class of
events. An event is published to both kinds of handlers, whether it comes alone or in an envelope.
-/

namespace Shyam

open Python

namespace EventBus

/-- What an envelope takes over from an event. -/
structure Event (Class : Type) where
  eventClass : Class
  eventId : String
  timestamp : DateTime

structure EventEnvelope (Class : Type) where
  eventId : String
  eventType : String
  occurredAt : DateTime
  payload : Event Class
  sourceNodeId : Option String := none
  metadata : Dict PyValue := ∅

/-- `EventEnvelope`, and `EventEnvelope[X]`, beside the classes of events. -/
inductive RegisteredType (Class : Type) where
  | event (registered : Class)
  | envelope
  | envelopeOf (payload : Class)
deriving DecidableEq

inductive Message (Class : Type) where
  | event (event : Event Class)
  | envelope (envelope : EventEnvelope Class)

/-- The classes of events: their names, and `issubclass` among them. -/
structure Hierarchy (Class : Type) where
  name : Class → String
  issubclass : Class → Class → Bool

variable {Class Handler : Type}

def EventEnvelope.wrap (classes : Hierarchy Class) (event : Event Class) : EventEnvelope Class where
  eventId := event.eventId
  eventType := classes.name event.eventClass
  occurredAt := event.timestamp
  payload := event

/-- `issubclass(registered_type, EventEnvelope)`. -/
def RegisteredType.isEnvelope : RegisteredType Class → Bool
  | .event _ => false
  | .envelope => true
  | .envelopeOf _ => true

/-- `issubclass(event_type, registered_type)`. -/
def RegisteredType.isEventClass (classes : Hierarchy Class) (eventClass : Class) :
    RegisteredType Class → Bool
  | .event registered => classes.issubclass eventClass registered
  | .envelope => false
  | .envelopeOf _ => false

/-- The lookup leaves an empty list behind where nothing was registered. -/
def unsubscribe {EventType : Type} [DecidableEq EventType] [DecidableEq Handler]
    (self : EventBus EventType Handler) (eventType : EventType) (handler : Handler) :
    Bool × EventBus EventType Handler :=
  if eventType ∈ self.subscribers.map Prod.fst then
    ((self.subscribers.any fun entry => entry.1 = eventType ∧ handler ∈ entry.2),
      { subscribers := self.subscribers.map fun entry =>
          if entry.1 = eventType then (entry.1, entry.2.erase handler) else entry })
  else (false, { subscribers := self.subscribers ++ [(eventType, [])] })

/-! ### Publication -/

abbrev Bus (Class Handler : Type) := EventBus (RegisteredType Class) Handler

abbrev Invocation (Class Handler : Type) := Handler × Message Class

/-- The handlers of the types that are asked for, with the message. -/
def dispatch (self : Bus Class Handler) (asked : RegisteredType Class → Bool)
    (message : Message Class) :
    List (Invocation Class Handler) :=
  self.subscribers.flatMap fun entry => if asked entry.1 then entry.2.map fun h =>
    (h, message) else []

def invocations (self : Bus Class Handler) (classes : Hierarchy Class) :
    Message Class → List (Invocation Class Handler)
  | .envelope envelope =>
      self.dispatch RegisteredType.isEnvelope (.envelope envelope)
        ++ self.dispatch (RegisteredType.isEventClass classes envelope.payload.eventClass)
          (.event envelope.payload)
  | .event event =>
      self.dispatch (RegisteredType.isEventClass classes event.eventClass) (.event event)
        ++ self.dispatch RegisteredType.isEnvelope (.envelope (.wrap classes event))

/-- What a handler raises is logged where it is an `Exception`. A `CancelledError` is none, and
passes. -/
def safeInvoke (isException : Exc → Bool) (run : Handler → Message Class → Except Exc Unit)
    (invocation : Invocation Class Handler) : Except Exc Unit :=
  match run invocation.1 invocation.2 with
  | .ok () => .ok ()
  | .error exc => if isException exc then .ok () else .error exc

/-- `asyncio.gather`: all of them run, and an exception of one of them is raised. -/
def gather (outcomes : List (Except Exc Unit)) : Except Exc Unit := outcomes.forM id

/-- What `publish` comes to, and the invocations that it makes. -/
def publish (self : Bus Class Handler) (classes : Hierarchy Class) (isException : Exc → Bool)
    (run : Handler → Message Class → Except Exc Unit) (message : Message Class) :
    Except Exc Unit × List (Invocation Class Handler) :=
  match self.invocations classes message with
  | [] => (.ok (), [])
  | invocation :: invocations =>
      (gather ((invocation :: invocations).map (safeInvoke isException run)),
        invocation :: invocations)

/-! ### Calls -/

inductive Call (Class Handler : Type) where
  | subscribe (eventType : RegisteredType Class) (handler : Handler)
  | unsubscribe (eventType : RegisteredType Class) (handler : Handler)

def step [DecidableEq Class] [DecidableEq Handler] (self : Bus Class Handler) :
    Call Class Handler → Bus Class Handler
  | .subscribe eventType handler => self.subscribe eventType handler
  | .unsubscribe eventType handler => (self.unsubscribe eventType handler).2

end EventBus

end Shyam
